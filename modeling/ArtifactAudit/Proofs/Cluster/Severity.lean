import ArtifactAudit.Proofs.Cluster.Sessions
import ArtifactAudit.Proofs.Text.Lowering

/-!
# How far a command in a pod got

A command in a pod was not started in its session, broke off, or ran to its end. The answer
to it decides which, and for a command that ended the exit code and the messages do. The
phrases of a broken session count in any case of letters, that of a reported exit code only
as it is written.

More messages never make the end of a command look worse, and the case of letters matters
only where the exit code is reported (`runInPod_partition`).
-/

set_option autoImplicit false

namespace ArtifactAudit.Cluster

open Text (SameButCase)

/-! ## Classes in order -/

/-- How far a command of a class got. -/
def ExecClass.rank : ExecClass → Nat
  | notEstablished => 0
  | broken => 1
  | ended => 2

/-- The class that an end of a command in a pod belongs to, if it is no other failure. -/
def classOf? : Except Halt Captured → Option ExecClass
  | .ok _ => some .ended
  | .error (.failure (.exec (.stream _))) => some .broken
  | .error (.failure (.exec (.setup _))) => some .notEstablished
  | .error _ => none

/-! ## Messages -/

/-- Whether messages report an exit code. -/
def ReportsExit (errors : String) : Prop :=
  remoteExitPhrase.toList <:+: errors.toList

/-- A broken session is reported in any case of letters, however messages are lowered. -/
theorem reportsBreak_iff {errors : String} :
    ReportsBreak errors ↔
      ∃ phrase ∈ brokenStreamPhrases, phrase.toList <:+: Text.small errors.toList := by
  have inline : ∀ phrase ∈ brokenStreamPhrases, ∀ c ∈ phrase.toList, Text.IsInline c := by
    have all : (brokenStreamPhrases.all fun phrase =>
      phrase.toList.all fun c => decide (Text.IsInline c)) = true := by decide
    exact fun phrase listed => Text.forall_isInline (List.all_eq_true.mp all phrase listed)
  constructor
  · rintro ⟨phrase, listed, stands⟩
    exact ⟨phrase, listed, ((Text.alikeOn_small _).infix_iff (inline phrase listed)).mp stands⟩
  · rintro ⟨phrase, listed, stands⟩
    exact ⟨phrase, listed, ((Text.alikeOn_small _).infix_iff (inline phrase listed)).mpr stands⟩

theorem classify_eq_ended {code : Int} {errors : String} :
    classify code errors = .ended ↔ code = 0 ∨ ReportsExit errors :=
  @classify_eq_ended_iff ⟨"", errors, code⟩

theorem classify_eq_broken {code : Int} {errors : String} :
    classify code errors = .broken ↔ ¬ (code = 0 ∨ ReportsExit errors) ∧ ReportsBreak errors :=
  @classify_eq_broken_iff ⟨"", errors, code⟩

theorem classify_eq_notEstablished {code : Int} {errors : String} :
    classify code errors = .notEstablished ↔
      ¬ (code = 0 ∨ ReportsExit errors) ∧ ¬ ReportsBreak errors := by
  constructor
  · intro unestablished
    have unfinished : ¬ (code = 0 ∨ ReportsExit errors) := fun ran => by
      rw [classify_eq_ended.mpr ran] at unestablished
      cases unestablished
    refine ⟨unfinished, fun reports => ?_⟩
    rw [classify_eq_broken.mpr ⟨unfinished, reports⟩] at unestablished
    cases unestablished
  · rintro ⟨unfinished, silent⟩
    cases far : classify code errors with
    | notEstablished => rfl
    | broken => exact absurd (classify_eq_broken.mp far).2 silent
    | ended => exact absurd (classify_eq_ended.mp far) unfinished

/-- More messages report what fewer report. -/
theorem ReportsExit.append {errors : String} (reports : ReportsExit errors)
    (before after : String) : ReportsExit (before ++ errors ++ after) := by
  rw [ReportsExit, String.toList_append, String.toList_append]
  exact reports.trans (List.infix_append _ _ _)

theorem ReportsBreak.append {errors : String} (reports : ReportsBreak errors)
    (before after : String) : ReportsBreak (before ++ errors ++ after) := by
  obtain ⟨phrase, listed, stands⟩ := reports
  refine ⟨phrase, listed, stands.trans ?_⟩
  rw [String.toList_append, String.toList_append, Text.lower_append, Text.lower_append]
  exact List.infix_append _ _ _

/-- With more messages a command got at least as far. -/
theorem rank_classify_append (code : Int) (before errors after : String) :
    (classify code errors).rank ≤ (classify code (before ++ errors ++ after)).rank := by
  cases far : classify code errors with
  | notEstablished => exact Nat.zero_le _
  | broken =>
    obtain ⟨_, reports⟩ := classify_eq_broken.mp far
    by_cases ran : code = 0 ∨ ReportsExit (before ++ errors ++ after)
    · rw [classify_eq_ended.mpr ran]
      decide
    · rw [classify_eq_broken.mpr ⟨ran, reports.append before after⟩]
  | ended =>
    have ran : code = 0 ∨ ReportsExit (before ++ errors ++ after) :=
      (classify_eq_ended.mp far).imp_right fun reports => reports.append before after
    rw [classify_eq_ended.mpr ran]

/-- Whether messages report an exit code but for the case of letters. -/
def NearlyReportsExit (errors : String) : Prop :=
  ∃ phrase, SameButCase phrase remoteExitPhrase.toList ∧ phrase <:+: errors.toList

theorem ReportsExit.nearly {errors : String} (reports : ReportsExit errors) :
    NearlyReportsExit errors :=
  ⟨_, rfl, reports⟩

/-- The case of letters does not matter to whether an exit code is nearly reported. -/
theorem NearlyReportsExit.of_sameButCase {errors other : String}
    (same : SameButCase errors.toList other.toList) (nearly : NearlyReportsExit other) :
    NearlyReportsExit errors := by
  obtain ⟨phrase, alike, stands⟩ := nearly
  have lowered : phrase.map Char.toLower <:+: errors.toList.map Char.toLower := by
    rw [same]
    exact stands.map _
  obtain ⟨part, among, spelled⟩ := List.infix_map_iff.mp lowered
  exact ⟨part, spelled.symm.trans alike, among⟩

/-- Where no exit code is reported in any case of letters, the case of letters does not
matter. -/
theorem classify_eq_of_sameButCase (code : Int) {errors other : String}
    (same : SameButCase errors.toList other.toList) (unreported : ¬ NearlyReportsExit errors) :
    classify code errors = classify code other := by
  have silent : ∀ {text : String}, ¬ NearlyReportsExit text →
      Text.mentions text remoteExitPhrase = false := by
    intro text unreported
    refine Bool.eq_false_iff.mpr fun mentions => unreported ?_
    exact ReportsExit.nearly (Text.occursIn_iff.mp mentions)
  have also : ¬ NearlyReportsExit other := fun nearly => unreported (nearly.of_sameButCase same)
  rw [classify, classify, silent unreported, silent also, Text.lower_eq_of_sameButCase same]

/-! ## The end of a command -/

/-- What a command that ended leads to: both streams and the exit code as they are, if the
code is 0 or reported, and otherwise one of two failures. -/
structure SortsEnded (finished : Finished) (result : Except Halt Captured) : Prop where
  sorted : classOf? result = some (classify finished.code finished.captured.errors)
  returned : result = .ok finished.captured ↔
    finished.code = 0 ∨ ReportsExit finished.captured.errors
  broke : (∃ message, result = .error (.failure (.exec (.stream message)))) ↔
    ¬ (finished.code = 0 ∨ ReportsExit finished.captured.errors) ∧
      ∃ phrase ∈ brokenStreamPhrases,
        phrase.toList <:+: Text.small finished.captured.errors.toList
  unestablished : (∃ message, result = .error (.failure (.exec (.setup message)))) ↔
    ¬ (finished.code = 0 ∨ ReportsExit finished.captured.errors) ∧
      ¬ ∃ phrase ∈ brokenStreamPhrases,
        phrase.toList <:+: Text.small finished.captured.errors.toList

/-- What the answer to a command in a pod leads to. -/
def Sorts : CommandAnswer → Except Halt Captured → Prop
  | .notStarted _, result => ∃ message, result = .error (.failure (.exec (.setup message)))
  | .timedOut, result => ∃ message, result = .error (.failure (.exec (.stream message)))
  | .finished finished, result => SortsEnded finished result
  | .fault fault, result => result = .error (.fault fault)

theorem runInPod_sorts (config : KubectlConfig) (deployment name command : String) :
    (runInPod config deployment (.string name) command).Follows fun acts result => ∃ answer,
      acts = [.command (execCommand config deployment name command) answer] ∧
        Sorts answer result := by
  refine (runInPod_follows config deployment name command).mono fun acts result follows => ?_
  obtain ⟨answer, seen, executes, captures⟩ := follows
  refine ⟨answer, seen, ?_⟩
  cases result with
  | ok captured =>
    obtain ⟨finished, rfl, rfl⟩ := captures captured rfl
    cases executes with
    | completed ran =>
      have ended := classify_eq_ended.mpr ran
      exact ⟨congrArg some ended.symm, iff_of_true rfl ran,
        iff_of_false nofun fun unfinished => unfinished.1 ran,
        iff_of_false nofun fun unfinished => unfinished.1 ran⟩
  | error reason =>
    cases executes with
    | late => exact ⟨_, rfl⟩
    | unstarted error => exact ⟨_, rfl⟩
    | upset fault => rfl
    | broken unfinished reports =>
      have broke := classify_eq_broken.mpr ⟨unfinished, reports⟩
      have phrases := reportsBreak_iff.mp reports
      exact ⟨congrArg some broke.symm, iff_of_false nofun unfinished,
        iff_of_true ⟨_, rfl⟩ ⟨unfinished, phrases⟩,
        iff_of_false nofun fun silent => silent.2 phrases⟩
    | unestablished unfinished silent =>
      have unestablished := classify_eq_notEstablished.mpr ⟨unfinished, silent⟩
      have phrases := fun reported => silent (reportsBreak_iff.mpr reported)
      exact ⟨congrArg some unestablished.symm, iff_of_false nofun unfinished,
        iff_of_false nofun fun broke => phrases broke.2,
        iff_of_true ⟨_, rfl⟩ ⟨unfinished, phrases⟩⟩

/-- A command in a pod is one command of kubectl, and its end is sorted. With more messages
around those there are it never gets less far, and the case of letters of ASCII matters only
where an exit code is reported in some case of letters. -/
theorem runInPod_partition (config : KubectlConfig) (deployment name command : String) :
    ((runInPod config deployment (.string name) command).Follows fun acts result => ∃ answer,
      acts = [.command (execCommand config deployment name command) answer] ∧
        Sorts answer result) ∧
    (∀ (code : Int) (before errors after : String),
      (classify code errors).rank ≤ (classify code (before ++ errors ++ after)).rank) ∧
    ∀ (code : Int) (errors other : String), SameButCase errors.toList other.toList →
      (∀ phrase, SameButCase phrase remoteExitPhrase.toList → ¬ phrase <:+: errors.toList) →
        classify code errors = classify code other :=
  ⟨runInPod_sorts config deployment name command, rank_classify_append,
    fun code _ _ same unreported => classify_eq_of_sameButCase code same
      fun ⟨phrase, alike, stands⟩ => unreported phrase alike stands⟩

/-- A broken session is recognized in capitals, and between letters whose lower case is longer
or depends on their place. -/
theorem runInPod_partition_for_capitals :
    SameButCase "Connection reset".toList "CONNECTION RESET".toList ∧
    classify 1 "CONNECTION RESET" = classify 1 "Connection reset" ∧
    ExecClass.broken.rank ≤ (classify 1 "\u0130 CONNECTION RESET by \u03A3").rank := by
  have same : SameButCase "CONNECTION RESET".toList "Connection reset".toList := by decide
  obtain ⟨_, grows, recased⟩ := runInPod_partition {} "ns" "pod" "cat x"
  refine ⟨same.symm, recased 1 _ _ same ?_, ?_⟩
  · intro phrase alike stands
    have longer := alike.length_eq.symm.le.trans stands.length_le
    exact absurd longer (by decide)
  · exact grows 1 "\u0130 " "CONNECTION RESET" " by \u03A3"

end ArtifactAudit.Cluster
