import Flowchart.Text.Hex
import Flowchart.Text.Utf8

/-!
Percent escapes in the path of a request: `%` and two hexadecimal digits stand for a byte.
-/

namespace Flowchart

/-- The bytes of a path; a percent sign without two digits stands for itself. -/
def pathBytes : List Char → List Nat
  | [] => []
  | '%' :: high :: low :: rest =>
      match hexValue? high, hexValue? low with
      | some high, some low => (16 * high + low) :: pathBytes rest
      | _, _ => '%'.toNat :: pathBytes (high :: low :: rest)
  | c :: rest => (String.utf8EncodeChar c).map UInt8.toNat ++ pathBytes rest

/-- A path with its percent escapes read. -/
def percentDecode (path : String) : String :=
  String.ofList (decodeUtf8 (pathBytes path.toList))

end Flowchart
