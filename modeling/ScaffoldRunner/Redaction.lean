import ScaffoldRunner.Text.Basic
import ScaffoldRunner.Text.Search
import ScaffoldRunner.Text.Utf8

/-!
# Redaction of messages

Messages that end up in reports lose three things first: the values assigned to secrets, paths
that lead through a sensitive directory, and whatever goes beyond 500 bytes. `redact` is the
composition of the first two, `sanitize` of all three.
-/

namespace ScaffoldRunner

namespace Redaction

/-- The words that name a secret, in lower case. -/
def keywords : List (List Char) :=
  ["password".toList, "token".toList, "key".toList, "secret".toList]

/-- The keyword at the front of a text, as it is written there, and what follows it. -/
def keywordAt? (cs : List Char) : Option (List Char × List Char) :=
  keywords.findSome? fun word =>
    (Text.afterPrefixFold? word cs).map fun rest => (cs.take word.length, rest)

/-- What follows an assigned value: the separator, blanks and at least one character that is no
blank must come first. -/
def afterValue? : List Char → Option (List Char)
  | c :: cs =>
      if c = '=' ∨ c = ':' then
        match Text.trimStart cs with
        | [] => none
        | value => some (value.dropWhile fun c => !Text.isBlank c)
      else none
  | [] => none

/-- A keyword with its assigned value at the front of a text: the keyword as written and what
follows the value. -/
def secretAt? (cs : List Char) : Option (List Char × List Char) := do
  let (word, rest) ← keywordAt? cs
  let rest ← afterValue? rest
  return (word, rest)

theorem length_afterValue?_le {cs rest : List Char} (h : afterValue? cs = some rest) :
    rest.length < cs.length := by
  cases cs with
  | nil => simp [afterValue?] at h
  | cons c cs =>
      rw [afterValue?] at h
      split at h
      · split at h
        · cases h
        · have hle := (List.dropWhile_sublist (l := Text.trimStart cs)
            fun c => !Text.isBlank c).length_le
          have hle' := (List.dropWhile_sublist (l := cs) Text.isBlank).length_le
          simp only [Option.some.injEq] at h
          subst h
          simp only [List.length_cons]
          unfold Text.trimStart at *
          omega
      · cases h

theorem length_secretAt? {cs word rest : List Char} (h : secretAt? cs = some (word, rest)) :
    rest.length < cs.length := by
  simp only [secretAt?, Option.bind_eq_bind, Option.bind_eq_some_iff, Prod.exists] at h
  obtain ⟨w, r, hw, r', hr, he⟩ := h
  simp only [Option.pure_def, Option.some.injEq, Prod.mk.injEq] at he
  obtain ⟨rfl, rfl⟩ := he
  simp only [keywordAt?, List.findSome?_eq_some_iff, Option.map_eq_some_iff, Prod.mk.injEq] at hw
  obtain ⟨_, k, _, _, ⟨r'', hk, _, rfl⟩, _⟩ := hw
  have h1 := Text.length_of_afterPrefixFold? hk
  have h2 := length_afterValue?_le hr
  omega

/-- Replace the value of every assigned secret. The separator becomes an equals sign. -/
def redactSecrets (cs : List Char) : List Char :=
  match _h : secretAt? cs with
  | some (word, rest) => word ++ "=***".toList ++ redactSecrets rest
  | none =>
      match cs with
      | [] => []
      | c :: cs => c :: redactSecrets cs
termination_by cs.length
decreasing_by
  · exact length_secretAt? _h
  · simp

def isPathChar (c : Char) : Bool :=
  c.isAlphanum || c = '.' || c = '_' || c = '/' || c = '-'

/-- The sensitive directories, with their separators. -/
def sensitiveParts : List (List Char) :=
  ["/secret/".toList, "/secrets/".toList, "/.ssh/".toList, "/.aws/".toList, "/.config/".toList]

/-- Whether a path leads on through a sensitive directory at its front. -/
def sensitiveHere (path : List Char) : Bool :=
  sensitiveParts.any fun part =>
    match Text.afterPrefix? part path with
    | some (_ :: _) => true
    | _ => false

/-- Whether a path leads through a sensitive directory anywhere. -/
def sensitiveLater : List Char → Bool
  | [] => false
  | c :: path => sensitiveHere (c :: path) || sensitiveLater path

/-- Whether a path, given without its leading separator, has a sensitive directory after at least
one character. -/
def isSensitive (path : List Char) : Bool := sensitiveLater (path.drop 1)

/-- Replace every path that leads through a sensitive directory, from its first separator on to
its end. -/
def redactPaths : List Char → List Char
  | [] => []
  | c :: cs =>
      if c = '/' ∧ isSensitive (cs.takeWhile isPathChar) then
        "/***REDACTED***/".toList ++ redactPaths (cs.dropWhile isPathChar)
      else c :: redactPaths cs
termination_by cs => cs.length
decreasing_by
  · exact Nat.lt_succ_of_le (List.dropWhile_sublist isPathChar).length_le
  · simp

/-- The most bytes that a message in a report may have. -/
def maxBytes : Nat := 500

/-- The mark at the end of a message that was cut. -/
def cutMark : List Char := "...[truncated]".toList

/-- Cut a message that is too long in front of the character that would not fit any more. -/
def cap (cs : List Char) : List Char :=
  if Text.utf8Length cs ≤ maxBytes then cs
  else Text.takeBytes (maxBytes - cutMark.length) cs ++ cutMark

def redact (cs : List Char) : List Char := redactPaths (redactSecrets cs)

/-- A message as it may stand in a report. -/
def sanitizeChars (cs : List Char) : List Char := cap (redact cs)

/-- A message as it may stand in a report. -/
def sanitize (message : String) : String := String.ofList (sanitizeChars message.toList)

end Redaction

end ScaffoldRunner
