/-!
# Diagnostic — codes

Every kind of report has a short code: a family, such as `E` for errors and
`W` for warnings, and a number of at least four digits.
-/

namespace HdlLex.Diagnostic

/-- The code of a kind of report. -/
structure Code where
  family : String
  number : UInt32
  deriving DecidableEq, Repr

namespace Code

/-- The family followed by the number, filled with zeros to four digits. -/
def text (code : Code) : String :=
  code.family ++ String.ofList ((Nat.toDigits 10 code.number.toNat).leftpad 4 '0')

/-- The code as it appears in an account of a value. -/
def summary (code : Code) : String :=
  "DiagnosticCode(" ++ code.text ++ ")"

end Code

end HdlLex.Diagnostic
