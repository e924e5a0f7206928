import ArtifactAudit.Text.Cut
import ArtifactAudit.Text.Digit

/-!
# Numeric host addresses

The dotted notation of IPv4 and the colon notation of IPv6, with at most one
`::`, an optional IPv4 address in the last place and an optional scope.
-/

set_option autoImplicit false

namespace ArtifactAudit.Url

/-- Whether the text is one number of a dotted address: up to 255, in at most
three digits, without a leading zero. -/
def isOctet (s : List Char) : Bool :=
  s.all Text.isAsciiDigit && 1 ≤ s.length && s.length ≤ 3 && (s.length == 1 || s.head? != some '0')
    && s.foldl (fun n c => 10 * n + (c.toNat - 48)) 0 ≤ 255

/-- Whether the text is an IPv4 address. -/
def isIpv4 (s : List Char) : Bool :=
  let numbers := Text.pieces '.' s
  numbers.length == 4 && numbers.all isOctet

/-- Whether the text is one group of a colon address. -/
def isHextet (s : List Char) : Bool :=
  1 ≤ s.length && s.length ≤ 4 &&
    s.all fun c => ('0' ≤ c && c ≤ '9') || ('a' ≤ c && c ≤ 'f') || ('A' ≤ c && c ≤ 'F')

/-- The groups between the colons, an IPv4 address in the last place written as
two groups. -/
def colonGroups? (s : List Char) : Option (List (List Char)) :=
  let groups := Text.pieces ':' s
  match groups.getLast? with
  | some final =>
    if final.contains '.' then
      if isIpv4 final then some (groups.dropLast ++ [['0'], ['0']]) else none
    else some groups
  | none => none

/-- Whether the groups make up an address. An empty group inside stands for the
`::`; an empty group at an end is allowed only next to it. -/
def areAddressGroups (groups : List (List Char)) : Bool :=
  let inner := (groups.drop 1).dropLast
  let holes := inner.filter (·.isEmpty)
  if groups.length > 9 || holes.length > 1 then false
  else if holes.isEmpty then groups.length == 8 && groups.all isHextet
  else
    let front := groups.takeWhile (!·.isEmpty)
    let back := (groups.reverse.takeWhile (!·.isEmpty)).reverse
    let opensEmpty := groups.head? == some []
    let closesEmpty := groups.getLast? == some []
    let covered := front.length + back.length + 1 + (if opensEmpty then 1 else 0) +
      (if closesEmpty then 1 else 0)
    covered == groups.length && front.length + back.length < 8 && (front ++ back).all isHextet

/-- Whether the text is an IPv6 address. -/
def isIpv6 (s : List Char) : Bool :=
  let address := Text.before '%' s
  let scopeAllowed := match Text.after? '%' s with
    | some scope => !scope.isEmpty && !scope.contains '%'
    | none => true
  scopeAllowed && !s.contains '/' && 3 ≤ (Text.pieces ':' address).length &&
    match colonGroups? address with
    | some groups => areAddressGroups groups
    | none => false

end ArtifactAudit.Url
