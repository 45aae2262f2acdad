import RebateRelay.Text.Hex

/-!
# Percent encoding

A character that may not stand in some part of an address is written as the bytes of its UTF-8 form,
each as a percent sign and two capital digits. Which characters these are depends on the part.
Percent signs themselves are never encoded, so what is encoded already stays as it is.
-/

namespace RebateRelay.Http.Percent

/-- A byte as a percent sign and two digits. -/
def encodeByte (b : UInt8) : List Char :=
  ['%', (Text.Hex.digit (b.toNat / 16)).toUpper, (Text.Hex.digit (b.toNat % 16)).toUpper]

/-- A character in its encoded form. -/
def encodeChar (c : Char) : List Char := (String.utf8EncodeChar c).flatMap encodeByte

/-- A text with the characters of a set encoded. -/
def encode (encoded : Char → Bool) (cs : List Char) : List Char :=
  cs.flatMap fun c => if encoded c then encodeChar c else [c]

/-- Control characters and all that is not ASCII; these are encoded everywhere. -/
def isControl (c : Char) : Bool := c.toNat < 0x20 || 0x7E < c.toNat

/-- What is encoded in a fragment. -/
def inFragment (c : Char) : Bool := isControl c || [' ', '"', '<', '>', '\x60'].contains c

/-- What is encoded in a query of an address of the web. -/
def inQuery (c : Char) : Bool := isControl c || [' ', '"', '#', '<', '>', '\''].contains c

/-- What is encoded in a query of any other address. -/
def inOtherQuery (c : Char) : Bool := isControl c || [' ', '"', '#', '<', '>'].contains c

/-- What is encoded in a path. -/
def inPath (c : Char) : Bool :=
  isControl c || [' ', '"', '#', '<', '>', '?', '\x60', '{', '}'].contains c

/-- What is encoded in the part before the host. -/
def inUser (c : Char) : Bool :=
  inPath c || ['/', ':', ';', '=', '@', '[', '\\', ']', '^', '|'].contains c

/-- The bytes of a text in which encoded bytes are read back. A percent sign without two digits
stands for itself. -/
def decode : List Char → List UInt8
  | '%' :: a :: b :: cs =>
    match Text.Hex.value? a, Text.Hex.value? b with
    | some high, some low => UInt8.ofNat (16 * high + low) :: decode cs
    | _, _ => 0x25 :: decode (a :: b :: cs)
  | c :: cs => String.utf8EncodeChar c ++ decode cs
  | [] => []
  termination_by cs => cs.length

@[simp] theorem encode_nil (encoded : Char → Bool) : encode encoded [] = [] := rfl

theorem encode_cons (encoded : Char → Bool) (c : Char) (cs : List Char) :
    encode encoded (c :: cs) = (if encoded c then encodeChar c else [c]) ++ encode encoded cs := by
  simp [encode]

end RebateRelay.Http.Percent
