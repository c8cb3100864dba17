/-!
# Diagnostics

What a scan reports besides tokens. None of it stops the scan.
-/

namespace ScopeScanner

/-- A remark on the scanned text. -/
inductive Diagnostic where
  /-- No rule matched from `offset` on to the end of the line. -/
  | unmatchedInput (offset length : Nat)
  /-- A region was still open when the buffer ended. Its start is a position in the buffer of the
  scan that met its begin. -/
  | unterminatedRegion (rule : String) (scopes : List String) (start : Nat)
deriving DecidableEq, Repr

/-- A remark in words. -/
def Diagnostic.message : Diagnostic → String
  | unmatchedInput offset length =>
    "unmatched input at " ++ digits offset ++ ".." ++ digits (offset + length)
  | unterminatedRegion rule _ start =>
    "region `" ++ rule ++ "` opened at " ++ digits start ++ " is not terminated"
where
  /-- A number in decimal digits. -/
  digits (n : Nat) : String :=
    String.ofList (Nat.toDigits 10 n)

end ScopeScanner
