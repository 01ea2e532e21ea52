/-!
# Tokens of regular expressions

A regular expression is read as tokens: a backslash together with the character after it, or any
other character alone.  A backslash at the very end is a token that cannot be read.
-/

namespace Conform.Regex

/-- A token of a regular expression. -/
inductive Token where
  /-- A character that stands alone. -/
  | plain (c : Char)
  /-- A character behind a backslash. -/
  | escaped (c : Char)
  /-- A backslash behind which the text ends. -/
  | unfinished
deriving DecidableEq

namespace Token

/-- The tokens of a text. -/
def ofChars : List Char → List Token
  | [] => []
  | ['\\'] => [.unfinished]
  | '\\' :: c :: rest => .escaped c :: ofChars rest
  | c :: rest => .plain c :: ofChars rest

/-- The characters of a token. -/
def chars : Token → List Char
  | .plain c => [c]
  | .escaped c => ['\\', c]
  | .unfinished => ['\\']

/-- The character of a token that stands alone and passes a test. -/
def plain? (test : Char → Bool) : Token → Option Char
  | .plain c => if test c then some c else none
  | _ => none

/-- The characters of the tokens are those of the text. -/
@[simp] theorem flatMap_chars_ofChars (text : List Char) : (ofChars text).flatMap chars = text := by
  fun_induction ofChars text with
  | case1 => rfl
  | case2 => rfl
  | case3 c rest ih => simp [chars, ih]
  | case4 c rest _ _ ih => simp [chars, ih]

end Token

end Conform.Regex
