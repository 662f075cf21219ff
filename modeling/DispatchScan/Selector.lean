import DispatchScan.Hex

/-!
# Function selectors

A selector is four bytes, most significant first. It has three views: the bytes, the number that a
dispatcher compares and eight lowercase hexadecimal digits. Selectors are ordered by their bytes.
-/

namespace DispatchScan

/-- The four bytes that name a function in a call. -/
structure Selector where
  /-- The most significant byte. -/
  first : UInt8
  /-- The second byte. -/
  second : UInt8
  /-- The third byte. -/
  third : UInt8
  /-- The least significant byte. -/
  fourth : UInt8
  deriving DecidableEq, Repr

namespace Selector

/-- The bytes, most significant first. -/
def bytes (s : Selector) : List UInt8 :=
  [s.first, s.second, s.third, s.fourth]

/-- The selector with the first four of the given bytes, where missing ones are zero. -/
def ofBytes (bytes : List UInt8) : Selector :=
  ⟨bytes.getD 0 0, bytes.getD 1 0, bytes.getD 2 0, bytes.getD 3 0⟩

/-- The value of the bytes as digits in base 256. -/
def toNat (s : Selector) : Nat :=
  ((s.first.toNat * 256 + s.second.toNat) * 256 + s.third.toNat) * 256 + s.fourth.toNat

/-- The number that a dispatcher compares. -/
def toUInt32 (s : Selector) : UInt32 :=
  UInt32.ofNat s.toNat

/-- The selector with a given number. -/
def ofUInt32 (n : UInt32) : Selector :=
  ⟨UInt8.ofNat (n.toNat / 16777216), UInt8.ofNat (n.toNat / 65536), UInt8.ofNat (n.toNat / 256),
    UInt8.ofNat n.toNat⟩

/-- The eight lowercase digits of a selector. -/
def text (s : Selector) : String :=
  Hex.encode s.bytes

/-- Read a selector from eight digits after an optional mark. The length is judged in bytes. -/
def parse (text : String) : Except Hex.ReadError Selector :=
  (Hex.readExactly 4 (Text.utf8 (Hex.withoutMark text))).map ofBytes

/-- Compare two selectors byte by byte, the most significant byte first. -/
def order (a b : Selector) : Ordering :=
  (compare a.first b.first).then <| (compare a.second b.second).then <|
    (compare a.third b.third).then (compare a.fourth b.fourth)

instance : Ord Selector := ⟨order⟩

/-- Sort selectors by their bytes, keeping repeated ones. -/
def sort (selectors : List Selector) : List Selector :=
  selectors.mergeSort fun a b => (order a b).isLE

/-- The selector of a number has that number. -/
theorem toUInt32_ofUInt32 (n : UInt32) : (ofUInt32 n).toUInt32 = n := by
  have hn : n.toNat < 4294967296 := n.toNat_lt
  apply UInt32.toNat_inj.mp
  simp only [toUInt32, toNat, ofUInt32, UInt8.toNat_ofNat', UInt32.toNat_ofNat', Nat.reducePow]
  omega

/-- The number of a selector leads back to it. -/
theorem ofUInt32_toUInt32 (s : Selector) : ofUInt32 s.toUInt32 = s := by
  obtain ⟨a, b, c, d⟩ := s
  have ha := a.toNat_lt
  have hb := b.toNat_lt
  have hc := c.toNat_lt
  have hd := d.toNat_lt
  simp only [toUInt32, toNat, ofUInt32, UInt32.toNat_ofNat', Nat.reducePow, Selector.mk.injEq,
    ← UInt8.toNat_inj, UInt8.toNat_ofNat']
  omega

end Selector

end DispatchScan
