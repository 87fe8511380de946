import Mathlib.Data.List.TakeWhile
import Psv.Python.Value

/-!
# URLs

What `urlsplit` finds in a URL.  The splitting itself looks at delimiters only
and always succeeds; afterwards `urlsplit` refuses some network locations
(brackets that do not match or hold no address, characters that decompose into
delimiters), and that refusal is a parameter.  The user information stays a part
of the network location, and host and port are read behind it.
-/

namespace Python

/-- `text.partition(c)[0]` -/
def before (c : Char) (text : Str) : Str := text.takeWhile (· != c)

/-- `text.partition(c)[2]` -/
def behind (c : Char) (text : Str) : Str := (text.dropWhile (· != c)).drop 1

/-- The parts of a URL. -/
structure SplitResult where
  scheme : Str
  netloc : Str
  path : Str
  query : Str
  fragment : Str
  deriving DecidableEq

/-- What a scheme consists of: `[a-zA-Z0-9+.-]`. -/
def isSchemeChar (c : Char) : Bool := c.isAlphanum || ['+', '-', '.'].contains c

/-- The URL without leading blanks and control characters, tabs and line ends. -/
def cleanUrl (url : Str) : Str :=
  (url.dropWhile fun c => decide (c.toNat ≤ 32)).filter fun c => !(['\t', '\r', '\n'].contains c)

/-- The scheme in lower case, and what follows it. -/
def splitScheme (url : Str) : Str × Str :=
  let front := before ':' url
  if ':' ∈ url ∧ front.head?.any Char.isAlpha ∧ front.all isSchemeChar then
    (front.map Char.toLower, behind ':' url)
  else ([], url)

/-- The network location behind two slashes, and what follows it. -/
def splitNetloc : Str → Str × Str
  | '/' :: '/' :: rest => rest.span fun c => !(['/', '?', '#'].contains c)
  | rest => ([], rest)

/-- The parts of a URL, before its network location is checked. -/
def splitUrl (url : Str) : SplitResult :=
  let (scheme, rest) := splitScheme (cleanUrl url)
  let (netloc, rest) := splitNetloc rest
  let address := before '#' rest
  ⟨scheme, netloc, before '?' address, behind '?' address, behind '#' rest⟩

example : splitUrl "HTTPS://user@host:8545/path?query#fragment".toList =
    ⟨"https".toList, "user@host:8545".toList, "/path".toList, "query".toList,
      "fragment".toList⟩ := by
  decide

/-- `urlsplit(url)`; a refused network location comes with the message of the `ValueError`. -/
def urlsplit (refusal : Str → Option String) (url : Str) : Except String SplitResult :=
  match refusal (splitUrl url).netloc with
  | some message => .error message
  | none => .ok (splitUrl url)

namespace SplitResult

variable (parts : SplitResult)

/-- The user name and password, as they stand in front of the last `@`. -/
def userInfo : Option Str :=
  if '@' ∈ parts.netloc then
    some ((parts.netloc.reverse.dropWhile (· != '@')).drop 1).reverse
  else none

/-- The host and port, as they stand behind the last `@`. -/
def hostInfo : Str := (parts.netloc.reverse.takeWhile (· != '@')).reverse

/-- The host, which may stand in brackets, and the port, as they are written. -/
def hostAndPort : Str × Str :=
  if '[' ∈ parts.hostInfo then
    let bracketed := behind '[' parts.hostInfo
    (before ']' bracketed, behind ':' (behind ']' bracketed))
  else (before ':' parts.hostInfo, behind ':' parts.hostInfo)

variable [Interpreter]

/-- `parts.hostname`; the zone of an address keeps its letters. -/
def hostname : Option Str :=
  let host := parts.hostAndPort.1
  if host = [] then none else some (lower (before '%' host) ++ host.dropWhile (· != '%'))

/-- `parts.port`, or nothing when it raises `ValueError`. -/
def port : Option (Option ℕ) :=
  let text := parts.hostAndPort.2
  if text = [] then some none
  else if text.all Char.isDigit then
    match int10 text with
    | some number => if number ≤ 65535 then some (some number.toNat) else none
    | none => none
  else none

end SplitResult

/-! ### The network location -/

section Netloc

theorem netloc_eq (parts : SplitResult) :
    parts.netloc = match parts.userInfo with
      | some userInfo => userInfo ++ '@' :: parts.hostInfo
      | none => parts.hostInfo := by
  have cut := List.takeWhile_append_dropWhile (p := (· != '@')) (l := parts.netloc.reverse)
  have back := congrArg List.reverse cut
  rw [List.reverse_append, List.reverse_reverse] at back
  unfold SplitResult.userInfo SplitResult.hostInfo
  split_ifs with has
  · have found : parts.netloc.reverse.dropWhile (· != '@') ≠ [] := by
      intro none
      have all := List.dropWhile_eq_nil_iff.mp none '@' (List.mem_reverse.mpr has)
      simp at all
    rcases rest : parts.netloc.reverse.dropWhile (· != '@') with _ | ⟨c, rest⟩
    · exact absurd rest found
    · have sign : c = '@' := by
        have head := List.head?_dropWhile_not (· != '@') parts.netloc.reverse
        rw [rest] at head
        simpa using head
      rw [rest, sign] at back
      exact back.symm.trans (by simp)
  · have whole : parts.netloc.reverse.dropWhile (· != '@') = [] := by
      apply List.dropWhile_eq_nil_iff.mpr
      intro c mem
      rw [bne_iff_ne]
      intro sign
      rw [sign] at mem
      exact has (List.mem_reverse.mp mem)
    rw [whole] at back
    exact back.symm

/-- A network location is given by its user information, host and port. -/
theorem netloc_eq_iff {left right : SplitResult} :
    left.netloc = right.netloc ↔ left.userInfo = right.userInfo ∧ left.hostInfo = right.hostInfo := by
  constructor
  · intro same
    unfold SplitResult.userInfo SplitResult.hostInfo
    rw [same]
    exact ⟨rfl, rfl⟩
  · intro same
    rw [netloc_eq left, netloc_eq right, same.1, same.2]

end Netloc

end Python
