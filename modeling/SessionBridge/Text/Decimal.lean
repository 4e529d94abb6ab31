/-! Whole numbers in decimal: the fewest digits, and a minus sign in front of a negative one. -/
namespace SessionBridge.Text

def digits (n : Nat) : List Char :=
  Nat.toDigits 10 n

def decimalDigits : Int → List Char
  | .ofNat n => digits n
  | .negSucc n => '-' :: digits (n + 1)

def decimal (i : Int) : String :=
  String.ofList (decimalDigits i)

def paddedDigits (width n : Nat) : List Char :=
  let ds := digits n
  List.replicate (width - ds.length) '0' ++ ds

def padded (width n : Nat) : String :=
  String.ofList (paddedDigits width n)

theorem isDigit_of_mem_digits {n : Nat} {c : Char} (h : c ∈ digits n) : c.isDigit = true :=
  Nat.isDigit_of_mem_toDigits (by decide) (by decide) h

end SessionBridge.Text
