import ArtifactAudit.Proofs.Cluster.Sessions
import ArtifactAudit.Proofs.Script.Observation

/-!
# Listings of pods

The answer to the listing of pods decides the lookup (`locatePod_classified`): the command
printed no listing, the listing cannot be read, it names no pod, its first item names one,
or it has a shape that nothing provides for. Items after the first count for nothing.

A shape that nothing provides for brings a fault and no failure: items that are no list, and
a first item that is no object, or whose metadata are none (`locatePod_faults_at_text_item`).
-/

set_option autoImplicit false

namespace ArtifactAudit.Cluster

/-! ## What items say -/

/-- Whether some fields hold nothing under a key: no value, or an empty one. -/
def Lacks (fields : List (String × Json.Value)) (key : String) : Prop :=
  ∀ value, fields.lookup key = some value → value.isEmpty = true

/-- An item with a name in its metadata. The name is any value that is not empty. -/
inductive HasName : Json.Value → Json.Value → Prop
  | intro {fields metadata : List (String × Json.Value)} {name : Json.Value} :
      fields.lookup "metadata" = some (.object metadata) → metadata.lookup "name" = some name →
        name.isEmpty = false → HasName (.object fields) name

/-- An item without a name: it has no metadata, or they hold no name. -/
inductive Nameless : Json.Value → Prop
  | bare {fields : List (String × Json.Value)} :
      Lacks fields "metadata" → Nameless (.object fields)
  | unnamed {fields metadata : List (String × Json.Value)} :
      fields.lookup "metadata" = some (.object metadata) → Lacks metadata "name" →
        Nameless (.object fields)

/-- An item in which no name can be looked up. -/
inductive Unnameable : Json.Value → Prop
  | item {item : Json.Value} : (∀ fields, item ≠ .object fields) → Unnameable item
  | metadata {fields : List (String × Json.Value)} {metadata : Json.Value} :
      fields.lookup "metadata" = some metadata → metadata.isEmpty = false →
        (∀ inner, metadata ≠ .object inner) → Unnameable (.object fields)

/-- Items that nothing provides for, with the fault that they bring: they are no list, or no
name can be looked up in the first of them. -/
inductive Misshapen : Json.Value → Fault → Prop
  | truth : Misshapen (.bool true) .wrongKind
  | int {n : Int} : n ≠ 0 → Misshapen (.int n) .wrongKind
  | float {x : Float} : (x == 0) = false → Misshapen (.float x) .wrongKind
  | text {s : String} : s ≠ "" → Misshapen (.string s) .noFields
  | keyed {field : String × Json.Value} {fields : List (String × Json.Value)} :
      Misshapen (.object (field :: fields)) .noPosition
  | first {item : Json.Value} {others : List Json.Value} :
      Unnameable item → Misshapen (.array (item :: others)) .noFields

section

variable {fields : List (String × Json.Value)} {item items name : Json.Value}
  {others : List Json.Value} {fault : Fault} {key : String}

theorem lacks_iff : Lacks fields key ↔ ((fields.lookup key).getD .null).isEmpty = true := by
  unfold Lacks
  cases fields.lookup key with
  | none => simp [Json.Value.isEmpty]
  | some value => simp

theorem lacks_or_holds (fields : List (String × Json.Value)) (key : String) :
    Lacks fields key ∨ ∃ value, fields.lookup key = some value ∧ value.isEmpty = false := by
  cases held : fields.lookup key with
  | none => exact .inl fun value same => by simp [held] at same
  | some value =>
    cases empty : value.isEmpty with
    | true =>
      refine .inl fun other same => ?_
      obtain rfl : value = other := Option.some.inj (held.symm.trans same)
      exact empty
    | false => exact .inr ⟨value, rfl, empty⟩

/-- Items with a name, items without one and those in which none can be looked up are all
there are. -/
theorem item_cases (item : Json.Value) :
    (∃ name, HasName item name) ∨ Nameless item ∨ Unnameable item := by
  cases item with
  | object fields =>
    rcases lacks_or_holds fields "metadata" with bare | ⟨metadata, held, present⟩
    · exact .inr (.inl (.bare bare))
    · cases metadata with
      | object inner =>
        rcases lacks_or_holds inner "name" with unnamed | ⟨name, named, filled⟩
        · exact .inr (.inl (.unnamed held unnamed))
        · exact .inl ⟨name, .intro held named filled⟩
      | _ => exact .inr (.inr (.metadata held present (by simp)))
  | _ => exact .inr (.inr (.item (by simp)))

theorem items_cases (items : Json.Value) :
    items.isEmpty = true ∨ (∃ item others, items = .array (item :: others) ∧
      ((∃ name, HasName item name) ∨ Nameless item)) ∨ ∃ fault, Misshapen items fault := by
  cases items with
  | null => exact .inl rfl
  | bool value =>
    cases value with
    | false => exact .inl rfl
    | true => exact .inr (.inr ⟨_, .truth⟩)
  | int n =>
    by_cases zero : n = 0
    · exact .inl (by simp [Json.Value.isEmpty, zero])
    · exact .inr (.inr ⟨_, .int zero⟩)
  | float x =>
    cases zero : x == 0 with
    | true => exact .inl zero
    | false => exact .inr (.inr ⟨_, .float zero⟩)
  | string s =>
    by_cases empty : s = ""
    · exact .inl (by simp [Json.Value.isEmpty, empty])
    · exact .inr (.inr ⟨_, .text empty⟩)
  | array entries =>
    cases entries with
    | nil => exact .inl rfl
    | cons item others =>
      rcases item_cases item with named | nameless | unnameable
      · exact .inr (.inl ⟨item, others, rfl, .inl named⟩)
      · exact .inr (.inl ⟨item, others, rfl, .inr nameless⟩)
      · exact .inr (.inr ⟨_, .first unnameable⟩)
  | object fields =>
    cases fields with
    | nil => exact .inl rfl
    | cons field fields => exact .inr (.inr ⟨_, .keyed⟩)

/-- Metadata that are an object hold the name, if there is one. -/
theorem firstName_of_metadata {metadata : List (String × Json.Value)}
    (held : fields.lookup "metadata" = some (.object metadata)) :
    firstName (.array (.object fields :: others)) =
      .ok ((metadata.lookup "name").getD .null) := by
  simp only [firstName, firstItem, itemField, Except.bind, held, Option.getD_some]
  cases metadata <;> rfl

theorem firstName_of_hasName (named : HasName item name) (others : List Json.Value) :
    firstName (.array (item :: others)) = .ok name ∧ name.isEmpty = false := by
  cases named with
  | intro held named filled => exact ⟨by rw [firstName_of_metadata held, named]; rfl, filled⟩

theorem firstName_of_nameless (nameless : Nameless item) (others : List Json.Value) :
    ∃ name, firstName (.array (item :: others)) = .ok name ∧ name.isEmpty = true := by
  cases nameless with
  | bare bare =>
    refine ⟨.null, ?_, rfl⟩
    simp only [firstName, firstItem, itemField, Except.bind, lacks_iff.mp bare, if_true]
  | unnamed held unnamed => exact ⟨_, firstName_of_metadata held, lacks_iff.mp unnamed⟩

theorem firstName_of_unnameable (unnameable : Unnameable item) (others : List Json.Value) :
    firstName (.array (item :: others)) = .error .noFields := by
  cases unnameable with
  | item other =>
    cases item with
    | object fields => exact absurd rfl (other fields)
    | _ => rfl
  | metadata held present other =>
    simp only [firstName, firstItem, itemField, Except.bind, held, Option.getD_some, present,
      Bool.false_eq_true, if_false]

theorem firstName_of_misshapen (misshapen : Misshapen items fault) :
    items.isEmpty = false ∧ firstName items = .error fault := by
  cases misshapen with
  | truth => exact ⟨rfl, rfl⟩
  | int nonzero => exact ⟨by simpa [Json.Value.isEmpty] using nonzero, rfl⟩
  | float nonzero => exact ⟨nonzero, rfl⟩
  | text present => exact ⟨by simpa [Json.Value.isEmpty] using present, rfl⟩
  | keyed => exact ⟨rfl, rfl⟩
  | first unnameable => exact ⟨rfl, firstName_of_unnameable unnameable _⟩

end

/-! ## What a listing comes to -/

/-- The problem with a document that is no object. -/
def shapeProblem (document : Json.Value) : String :=
  s!"'{document.kind}' object has no attribute 'get'"

/-- The failure to read the output of the command as a listing. -/
def unreadable (deployment problem : String) : Halt :=
  .failure (.pod (.listing s!"Unreadable pod listing for {deployment}: {problem}"))

/-- What comes of the output of the command, read as a listing. -/
inductive Chooses (deployment selector output : String) : Except Halt Pod → Prop
  | found {fields : List (String × Json.Value)} {item name : Json.Value}
      {others : List Json.Value} :
      Json.read .listing output.toList = .ok (.object fields) →
        fields.lookup "items" = some (.array (item :: others)) → HasName item name →
          Chooses deployment selector output (.ok { name, deployment })
  /-- There are no items. -/
  | empty {fields : List (String × Json.Value)} :
      Json.read .listing output.toList = .ok (.object fields) → Lacks fields "items" →
        Chooses deployment selector output (.error (.failure (.pod (.notFound
          s!"no pods found with the label {selector}"))))
  | nameless {fields : List (String × Json.Value)} {item : Json.Value}
      {others : List Json.Value} :
      Json.read .listing output.toList = .ok (.object fields) →
        fields.lookup "items" = some (.array (item :: others)) → Nameless item →
          Chooses deployment selector output (.error (.failure (.pod (.notFound
            s!"first pod matching {selector} has no name"))))
  /-- The items have a shape that nothing provides for. -/
  | misshapen {fields : List (String × Json.Value)} {items : Json.Value} {fault : Fault} :
      Json.read .listing output.toList = .ok (.object fields) →
        fields.lookup "items" = some items → Misshapen items fault →
          Chooses deployment selector output (.error (.fault fault))
  /-- The document is no object. -/
  | unlisted {document : Json.Value} :
      Json.read .listing output.toList = .ok document → (∀ fields, document ≠ .object fields) →
        Chooses deployment selector output
          (.error (unreadable deployment (shapeProblem document)))
  /-- The output is no document. -/
  | broken {problem : Json.Problem} {position : Nat} :
      Json.read .listing output.toList = .error (.broken problem position) →
        Chooses deployment selector output
          (.error (unreadable deployment (Json.positionMessage output.toList problem position)))
  /-- A whole number in the document is too long. -/
  | number {error : Number.LiteralError} :
      Json.read .listing output.toList = .error (.number error) →
        Chooses deployment selector output (.error (.fault (.value error.message)))
  | tooDeep :
      Json.read .listing output.toList = .error .tooDeep →
        Chooses deployment selector output (.error (.fault .tooDeep))

section

variable {deployment selector output : String} {fields : List (String × Json.Value)}

theorem exists_chooses (deployment selector output : String) :
    ∃ result, Chooses deployment selector output result := by
  cases reads : Json.read .listing output.toList with
  | error error =>
    cases error with
    | broken problem position => exact ⟨_, .broken reads⟩
    | number error => exact ⟨_, .number reads⟩
    | tooDeep => exact ⟨_, .tooDeep reads⟩
  | ok document =>
    cases document with
    | object fields =>
      rcases lacks_or_holds fields "items" with empty | ⟨items, held, present⟩
      · exact ⟨_, .empty reads empty⟩
      · rcases items_cases items with none_ | ⟨item, others, rfl, ⟨name, named⟩ | nameless⟩ |
          ⟨fault, misshapen⟩
        · simp [none_] at present
        · exact ⟨_, .found reads held named⟩
        · exact ⟨_, .nameless reads held nameless⟩
        · exact ⟨_, .misshapen reads held misshapen⟩
    | _ => exact ⟨_, .unlisted reads (by simp)⟩

theorem readItems_of_object
    (reads : Json.read .listing output.toList = .ok (.object fields)) :
    readItems output = .ok ((fields.lookup "items").getD .null) := by
  simp only [readItems, reads]

/-- What comes of the output is how the choice of a pod ends. -/
theorem choosePod_ends {result : Except Halt Pod}
    (chooses : Chooses deployment selector output result) :
    (choosePod deployment selector output).Follows (Course.ends result) := by
  have present (item : Json.Value) (others : List Json.Value) :
      (Json.Value.array (item :: others)).isEmpty = false := rfl
  unfold choosePod
  cases chooses with
  | @found fields item name others reads held named =>
    obtain ⟨first, filled⟩ := firstName_of_hasName named others
    simp only [readItems_of_object reads, held, Option.getD_some, present, first, filled,
      Bool.false_eq_true, if_false]
    split
    · exact Script.Follows.after_log fun _ => Script.Follows.after_log fun _ =>
        Script.Follows.returns _
    · exact Script.Follows.after_log fun _ => Script.Follows.returns _
  | empty reads lacks =>
    simp only [readItems_of_object reads, lacks_iff.mp lacks, if_true]
    exact Script.Follows.halt ⟨rfl, rfl⟩
  | @nameless fields item others reads held nameless =>
    obtain ⟨name, first, empty⟩ := firstName_of_nameless nameless others
    simp only [readItems_of_object reads, held, Option.getD_some, present, first, empty,
      Bool.false_eq_true, if_false, if_true]
    exact Script.Follows.halt ⟨rfl, rfl⟩
  | misshapen reads held misshapen =>
    obtain ⟨shaped, first⟩ := firstName_of_misshapen misshapen
    simp only [readItems_of_object reads, held, Option.getD_some, shaped, first,
      Bool.false_eq_true, if_false]
    exact Script.Follows.halt ⟨rfl, rfl⟩
  | unlisted reads other =>
    rename_i document
    simp only [readItems, reads]
    cases document with
    | object fields => exact absurd rfl (other fields)
    | _ => exact Script.Follows.halt ⟨rfl, rfl⟩
  | broken reads =>
    simp only [readItems, reads]
    exact Script.Follows.halt ⟨rfl, rfl⟩
  | number reads =>
    simp only [readItems, reads]
    exact Script.Follows.halt ⟨rfl, rfl⟩
  | tooDeep reads =>
    simp only [readItems, reads]
    exact Script.Follows.halt ⟨rfl, rfl⟩

/-- Only one thing comes of an output. -/
theorem Chooses.unique {first second : Except Halt Pod}
    (one : Chooses deployment selector output first)
    (other : Chooses deployment selector output second) : first = second := by
  obtain ⟨events, result, run⟩ := (choosePod deployment selector output).exists_runs
  rw [← (choosePod_ends one events result run).2, (choosePod_ends other events result run).2]

end

/-! ## The answer to the listing -/

/-- What the answer to the listing of pods comes to. -/
inductive Classifies (deployment selector : String) : CommandAnswer → Except Halt Pod → Prop
  | printed {finished : Finished} {result : Except Halt Pod} :
      finished.code = 0 → Chooses deployment selector finished.captured.output result →
        Classifies deployment selector (.finished finished) result
  /-- The command ended without success. -/
  | refused {finished : Finished} :
      finished.code ≠ 0 →
        Classifies deployment selector (.finished finished) (.error (.failure (.pod (.listing
          s!"failed to list pods in {deployment}: {Text.stripped finished.captured.errors}"))))
  | late :
      Classifies deployment selector .timedOut (.error (.failure (.pod (.listing
        s!"Listing pods in {deployment} timed out"))))
  | unstarted (error : SystemError) :
      Classifies deployment selector (.notStarted error) (.error (.failure (.pod (.listing
        s!"Could not run kubectl: {error.text}"))))
  /-- The command cannot be passed on. -/
  | upset (fault : Fault) :
      Classifies deployment selector (.fault fault) (.error (.fault fault))

/-- Whether an answer is a listing whose items begin with an item. -/
def LeadsWith (answer : CommandAnswer) (item : Json.Value) : Prop :=
  ∃ finished fields others, answer = .finished finished ∧ finished.code = 0 ∧
    Json.read .listing finished.captured.output.toList = .ok (.object fields) ∧
    fields.lookup "items" = some (.array (item :: others))

section

variable {config : KubectlConfig} {deployment selector : String} {answer : CommandAnswer}

theorem Classifies.unique {first second : Except Halt Pod}
    (one : Classifies deployment selector answer first)
    (other : Classifies deployment selector answer second) : first = second := by
  cases one with
  | printed success chooses =>
    cases other with
    | printed _ again => exact chooses.unique again
    | refused failed => exact absurd success failed
  | refused failed =>
    cases other with
    | printed success _ => exact absurd success failed
    | refused _ => rfl
  | late => cases other; rfl
  | unstarted error => cases other; rfl
  | upset fault => cases other; rfl

/-- The answer to the listing decides how a lookup ends. -/
theorem locatePod_classifies (named : deployment ≠ "") :
    (locatePod config deployment selector).Follows fun acts result => ∃ answer,
      acts = [.command (podCommand config deployment selector) answer] ∧
        Classifies deployment selector answer result := by
  unfold locatePod
  rw [if_neg (by simpa using named)]
  refine runKubectl_bind_follows config (listArguments deployment selector) config.requestTimeout
    (Classifies deployment selector) fun answer => ?_
  cases answer with
  | timedOut => exact Script.Follows.halt ⟨rfl, .late⟩
  | notStarted error => exact Script.Follows.halt ⟨rfl, .unstarted error⟩
  | fault fault => exact Script.Follows.halt ⟨rfl, .upset fault⟩
  | finished finished =>
    simp only
    split
    · rename_i success
      obtain ⟨result, chooses⟩ := exists_chooses deployment selector finished.captured.output
      refine (choosePod_ends chooses).mono fun acts ending ends => ⟨ends.1, ?_⟩
      rw [ends.2]
      exact .printed success chooses
    · rename_i failed
      exact Script.Follows.halt ⟨rfl, .refused failed⟩

/-- Every answer may be given to a command. -/
theorem runKubectl_answers (config : KubectlConfig) (arguments : List String) (limit : Float)
    (answer : CommandAnswer) :
    ∃ events,
      actsOf events = [.command { words := baseCommand config ++ arguments, limit } answer] ∧
      (runKubectl config arguments limit).Runs events (.ok answer) := by
  refine ⟨_, ?_, Script.runs_log_bind_iff.mpr
    ⟨_, rfl, Script.runs_perform_iff.mpr ⟨answer, rfl, rfl⟩⟩⟩
  rfl

/-- What an answer comes to is how the lookup that gets it ends. -/
theorem course_of_classifies (named : deployment ≠ "") {result : Except Halt Pod}
    (classifies : Classifies deployment selector answer result) :
    (locatePod config deployment selector).course
      [.command (podCommand config deployment selector) answer] result := by
  obtain ⟨front, shown, asked⟩ := runKubectl_answers config
    (listArguments deployment selector) config.requestTimeout answer
  obtain ⟨rest, ending, run⟩ : ∃ rest ending,
      (locatePod config deployment selector).Runs (front ++ rest) ending := by
    unfold locatePod
    rw [if_neg (by simpa using named)]
    exact ⟨_, _, Script.runs_bind_iff.mpr (.inl ⟨answer, front, _, rfl, asked,
      Script.runs_play (inTurn (fun _ => .failed "") fun _ => 0) _ (0, 0)⟩)⟩
  obtain ⟨given, acts, ended⟩ := locatePod_classifies named _ _ run
  rw [actsOf_append, shown] at acts
  obtain ⟨same, nothing⟩ := List.cons.inj acts
  cases same
  have nothing : actsOf rest = [] := nothing
  rw [classifies.unique ended]
  refine ⟨_, ?_, run⟩
  rw [actsOf_append, shown, nothing, List.append_nil]
  rfl

/-- Two listings that begin with the same item come to the same. -/
theorem LeadsWith.classifies_iff {first second : CommandAnswer} {item : Json.Value}
    (one : LeadsWith first item) (other : LeadsWith second item) (result : Except Halt Pod) :
    Classifies deployment selector first result ↔ Classifies deployment selector second result := by
  have common : ∃ same, Classifies deployment selector first same ∧
      Classifies deployment selector second same := by
    obtain ⟨_, _, _, rfl, success, reads, held⟩ := one
    obtain ⟨_, _, _, rfl, succeeds, reads', held'⟩ := other
    rcases item_cases item with ⟨name, named⟩ | nameless | unnameable
    · exact ⟨_, .printed success (.found reads held named),
        .printed succeeds (.found reads' held' named)⟩
    · exact ⟨_, .printed success (.nameless reads held nameless),
        .printed succeeds (.nameless reads' held' nameless)⟩
    · exact ⟨_, .printed success (.misshapen reads held (.first unnameable)),
        .printed succeeds (.misshapen reads' held' (.first unnameable))⟩
  obtain ⟨same, here, there⟩ := common
  constructor
  · intro classifies
    rwa [classifies.unique here]
  · intro classifies
    rwa [classifies.unique there]

/-- In a deployment with a name a lookup runs one command, and its answer decides: a lookup
ends with the name of the first item, with the failure to list pods or to find one, or, if
the listing has a shape or size that nothing provides for, with a fault. Items after the
first never count. -/
theorem locatePod_classified (config : KubectlConfig) {deployment : String} (selector : String)
    (named : deployment ≠ "") :
    (∀ acts result, (locatePod config deployment selector).course acts result ↔
      ∃ answer, acts = [.command (podCommand config deployment selector) answer] ∧
        Classifies deployment selector answer result) ∧
    ∀ first second item, LeadsWith first item → LeadsWith second item → ∀ result,
      Classifies deployment selector first result ↔
        Classifies deployment selector second result := by
  refine ⟨fun acts result => ⟨?_, ?_⟩, fun _ _ _ one other result =>
    one.classifies_iff other result⟩
  · rintro ⟨events, rfl, run⟩
    exact locatePod_classifies named events result run
  · rintro ⟨answer, rfl, classifies⟩
    exact course_of_classifies named classifies

end

/-! ## Two listings -/

/-- What a command leaves that printed a document. -/
def printing (document : String) : CommandAnswer :=
  .finished { output := Utf8.encode document.toList, errors := [], code := 0 }

/-- The listing of two pods, of which the second has a name that is no text. -/
def twoPods : String :=
  "\x7b\"items\":[\x7b\"metadata\":\x7b\"name\":\"pod-1\"\x7d\x7d," ++
    "\x7b\"metadata\":\x7b\"name\":2\x7d\x7d]\x7d"

theorem locatePod_classified_for_two_pods :
    "dspa" ≠ "" ∧ (locatePod {} "dspa" "app=x").course
      [.command (podCommand {} "dspa" "app=x") (printing twoPods)]
      (.ok { name := .string "pod-1", deployment := "dspa" }) := by
  have named : "dspa" ≠ "" := by decide
  have chooses : Chooses "dspa" "app=x" (capturedText (Utf8.encode twoPods.toList))
      (.ok { name := .string "pod-1", deployment := "dspa" }) :=
    .found rfl rfl (.intro rfl rfl rfl)
  exact ⟨named, ((locatePod_classified {} "app=x" named).1 _ _).mpr
    ⟨_, rfl, .printed rfl chooses⟩⟩

/-- A listing with a text where a pod should be. -/
def oneText : String :=
  "\x7b\"items\":[\"x\"]\x7d"

/-- A listing whose first item is a text is no listing of pods, but the lookup ends with a
fault and not with a failure. -/
theorem locatePod_faults_at_text_item :
    (locatePod {} "dspa" "app=x").course
        [.command (podCommand {} "dspa" "app=x") (printing oneText)] (.error (.fault .noFields)) ∧
      ∀ result, (locatePod {} "dspa" "app=x").course
          [.command (podCommand {} "dspa" "app=x") (printing oneText)] result →
        result = .error (.fault .noFields) := by
  have named : "dspa" ≠ "" := by decide
  have chooses : Chooses "dspa" "app=x" (capturedText (Utf8.encode oneText.toList))
      (.error (.fault .noFields)) :=
    .misshapen rfl rfl (.first (.item nofun))
  have classifies : Classifies "dspa" "app=x" (printing oneText)
      (.error (.fault .noFields)) := .printed rfl chooses
  refine ⟨course_of_classifies named classifies, ?_⟩
  rintro result ⟨events, shown, run⟩
  obtain ⟨answer, acts, ended⟩ := locatePod_classifies named events result run
  rw [shown] at acts
  cases acts
  exact ended.unique classifies

end ArtifactAudit.Cluster
