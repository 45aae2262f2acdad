import RebateRelay.Http.Ipv4

/-!
# Addresses of eight pieces

An address of the internet in its later version has eight pieces of sixteen bits, written in
hexadecimal digits with colons in between. Two colons stand for one or more pieces that are zero, at
one place only, and the last two pieces may be written as an address of four bytes. It is shown with
two colons for the first longest run of zeros, if it has any run of more than one.
-/

namespace RebateRelay.Http

open Number

/-- An address of eight pieces. -/
structure Ipv6 where
  pieces : List UInt16
  length_pieces : pieces.length = 8
  deriving DecidableEq, Repr

namespace Ipv6

/-- Reads a piece: up to four hexadecimal digits. -/
def piece? (cs : List Char) : Option UInt16 :=
  if cs.isEmpty || 4 < cs.length then none
  else (Ipv4.valueIn? 16 cs).map UInt16.ofNat

/-- Reads a decimal number below 256 that does not begin with a needless zero. -/
def byte? (cs : List Char) : Option Nat :=
  if cs.isEmpty || 3 < cs.length || (cs.head? == some '0' && 1 < cs.length) then none
  else do
    let n ← Ipv4.valueIn? 10 cs
    if n < 256 then some n else none

/-- Reads the two pieces that four bytes with points in between make. -/
def pair? (cs : List Char) : Option (List UInt16) := do
  match ← (Text.splitOn '.' cs).mapM byte? with
  | [a, b, c, d] => some [UInt16.ofNat (256 * a + b), UInt16.ofNat (256 * c + d)]
  | _ => none

/-- Reads pieces, the last of which may be two in the form of four bytes. -/
def piecesOf? (mayEndInBytes : Bool) : List (List Char) → Option (List UInt16)
  | [] => some []
  | [last] =>
    if mayEndInBytes && last.contains '.' then pair? last else (piece? last).map ([·])
  | part :: parts => do
    let piece ← piece? part
    let pieces ← piecesOf? mayEndInBytes parts
    some (piece :: pieces)

/-- Reads what stands on one side of two colons, which may be nothing. -/
def side? (mayEndInBytes : Bool) (cs : List Char) : Option (List UInt16) :=
  if cs.isEmpty then some [] else piecesOf? mayEndInBytes (Text.splitOn ':' cs)

/-- What stands before and after the first two colons that follow each other. -/
def splitGap? : List Char → Option (List Char × List Char)
  | ':' :: ':' :: cs => some ([], cs)
  | c :: cs => (splitGap? cs).map fun (before, after) => (c :: before, after)
  | [] => none

/-- An address of some pieces, if there are eight. -/
def ofPieces? (pieces : List UInt16) : Option Ipv6 :=
  if h : pieces.length = 8 then some ⟨pieces, h⟩ else none

/-- Reads an address. -/
def read? (cs : List Char) : Option Ipv6 :=
  match splitGap? cs with
  | none => do ofPieces? (← side? true cs)
  | some (before, after) => do
    let before ← side? false before
    let after ← side? true after
    let given := before.length + after.length
    if given < 8 then ofPieces? (before ++ List.replicate (8 - given) 0 ++ after) else none

/-- How many pieces from the first on are zero. -/
def zeros (pieces : List UInt16) : Nat := (pieces.takeWhile (· == 0)).length

/-- Where the first longest run of zeros begins, and how long it is. -/
def longestZeros (pieces : List UInt16) : Nat × Nat :=
  (List.range pieces.length).foldl (fun (best, length) start =>
    let run := zeros (pieces.drop start)
    if length < run then (start, run) else (best, length)) (0, 0)

/-- Pieces in hexadecimal digits with colons in between. -/
def piecesText (pieces : List UInt16) : String :=
  ":".intercalate (pieces.map fun piece => String.ofList (Nat.toDigits 16 piece.toNat))

/-- The text of an address. -/
def text (address : Ipv6) : String :=
  let (start, length) := longestZeros address.pieces
  if length < 2 then piecesText address.pieces
  else piecesText (address.pieces.take start) ++ "::" ++
    piecesText (address.pieces.drop (start + length))

theorem ofPieces?_pieces (address : Ipv6) : ofPieces? address.pieces = some address := by
  simp [ofPieces?, address.length_pieces]

end Ipv6

end RebateRelay.Http
