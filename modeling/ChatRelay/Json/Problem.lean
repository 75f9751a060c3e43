/-!
# What can be wrong with a JSON text

Three kinds of problem are told apart: a text that is no JSON, a text that ends too early, and a
text that is well formed so far but says something that is not expected. The first problem in
reading order is the one that counts.
-/

namespace ChatRelay.Json

/-- The first thing that is wrong with a JSON text. -/
inductive Problem
  /-- It is no JSON, or a number in it is beyond all floating-point numbers. -/
  | malformed
  /-- It ends too early. -/
  | endOfInput
  /-- It says something that is not expected here. -/
  | unexpected (message : String)
  deriving DecidableEq, Repr, Inhabited

/-- The text shown for a problem. -/
def Problem.message : Problem → String
  | .malformed => "malformed JSON"
  | .endOfInput => "unexpected end of input"
  | .unexpected message => message

end ChatRelay.Json
