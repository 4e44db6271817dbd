import ReportPress.Text.Quoted

/-!
UTF-8 text. Decoding accepts the shortest form of each scalar value alone and stops at the first
byte sequence that is none, telling which bytes are at fault. Main statement: `decode_encode`,
decoding inverts encoding.
-/

namespace ReportPress.Text.Utf8

/-- Why bytes are no UTF-8 text. -/
inductive Flaw
  | startByte
  | continuationByte
  | endOfData
  deriving DecidableEq

/-- The first fault of a byte sequence: `count` bytes from `position` on, the first being `byte`. -/
structure DecodeError where
  flaw : Flaw
  position : Nat
  count : Nat
  byte : UInt8
  deriving DecidableEq

def Flaw.message : Flaw → String
  | .startByte => "invalid start byte"
  | .continuationByte => "invalid continuation byte"
  | .endOfData => "unexpected end of data"

def DecodeError.message (e : DecodeError) : String :=
  let place :=
    if e.count = 1 then
      "byte 0x" ++ String.ofList (hexDigits 2 e.byte.toNat) ++ " in position " ++ e.position.repr
    else
      "bytes in position " ++ e.position.repr ++ "-" ++ (e.position + e.count - 1).repr
  "'utf-8' codec can't decode " ++ place ++ ": " ++ e.flaw.message

/-- The bytes of a scalar value, in the shortest form. -/
def encodeChar (c : Char) : List UInt8 :=
  let code := c.toNat
  if code < 0x80 then [.ofNat code]
  else if code < 0x800 then [.ofNat (0xC0 + code / 64), .ofNat (0x80 + code % 64)]
  else if code < 0x10000 then
    [.ofNat (0xE0 + code / 4096), .ofNat (0x80 + code / 64 % 64), .ofNat (0x80 + code % 64)]
  else
    [.ofNat (0xF0 + code / 262144), .ofNat (0x80 + code / 4096 % 64),
      .ofNat (0x80 + code / 64 % 64), .ofNat (0x80 + code % 64)]

/-- The bytes of a text. -/
def encode (s : String) : List UInt8 := s.toList.flatMap encodeChar

/-- A byte that goes on with a sequence. -/
def isContinuation (b : UInt8) : Bool := 0x80 ≤ b.toNat && b.toNat < 0xC0

/-- A second byte that keeps a three-byte sequence in shortest form and off the surrogates. -/
def isSecondOfThree (first second : UInt8) : Bool :=
  isContinuation second && !(first.toNat == 0xE0 && second.toNat < 0xA0) &&
    !(first.toNat == 0xED && 0xA0 ≤ second.toNat)

/-- A second byte that keeps a four-byte sequence in shortest form and below the last code. -/
def isSecondOfFour (first second : UInt8) : Bool :=
  isContinuation second && !(first.toNat == 0xF0 && second.toNat < 0x90) &&
    !(first.toNat == 0xF4 && 0x90 ≤ second.toNat)

/-- The characters of a byte sequence that starts `position` bytes into the data. -/
def decodeFrom (position : Nat) : List UInt8 → Except DecodeError (List Char)
  | [] => .ok []
  | a :: rest =>
    if a.toNat < 0x80 then
      (decodeFrom (position + 1) rest).map (Char.ofNat a.toNat :: ·)
    else if a.toNat < 0xC2 then .error ⟨.startByte, position, 1, a⟩
    else if a.toNat < 0xE0 then
      match rest with
      | [] => .error ⟨.endOfData, position, 1, a⟩
      | b :: rest =>
        if isContinuation b then
          (decodeFrom (position + 2) rest).map
            (Char.ofNat ((a.toNat - 0xC0) * 64 + (b.toNat - 0x80)) :: ·)
        else .error ⟨.continuationByte, position, 1, a⟩
    else if a.toNat < 0xF0 then
      match rest with
      | [] => .error ⟨.endOfData, position, 1, a⟩
      | b :: rest =>
        if isSecondOfThree a b then
          match rest with
          | [] => .error ⟨.endOfData, position, 2, a⟩
          | c :: rest =>
            if isContinuation c then
              (decodeFrom (position + 3) rest).map
                (Char.ofNat
                  ((a.toNat - 0xE0) * 4096 + (b.toNat - 0x80) * 64 + (c.toNat - 0x80)) :: ·)
            else .error ⟨.continuationByte, position, 2, a⟩
        else .error ⟨.continuationByte, position, 1, a⟩
    else if a.toNat < 0xF5 then
      match rest with
      | [] => .error ⟨.endOfData, position, 1, a⟩
      | b :: rest =>
        if isSecondOfFour a b then
          match rest with
          | [] => .error ⟨.endOfData, position, 2, a⟩
          | c :: rest =>
            if isContinuation c then
              match rest with
              | [] => .error ⟨.endOfData, position, 3, a⟩
              | d :: rest =>
                if isContinuation d then
                  (decodeFrom (position + 4) rest).map
                    (Char.ofNat ((a.toNat - 0xF0) * 262144 + (b.toNat - 0x80) * 4096 +
                      (c.toNat - 0x80) * 64 + (d.toNat - 0x80)) :: ·)
                else .error ⟨.continuationByte, position, 3, a⟩
            else .error ⟨.continuationByte, position, 2, a⟩
        else .error ⟨.continuationByte, position, 1, a⟩
    else .error ⟨.startByte, position, 1, a⟩

/-- The text of a byte sequence. -/
def decode (bytes : List UInt8) : Except DecodeError String :=
  (decodeFrom 0 bytes).map String.ofList

theorem decodeFrom_one {a : UInt8} (position : Nat) (rest : List UInt8) (h : a.toNat < 0x80) :
    decodeFrom position (a :: rest) =
      (decodeFrom (position + 1) rest).map (Char.ofNat a.toNat :: ·) := by
  conv => lhs; unfold decodeFrom
  simp only [h, ↓reduceIte]

theorem decodeFrom_two {a b : UInt8} (position : Nat) (rest : List UInt8)
    (hLow : 0xC2 ≤ a.toNat) (hHigh : a.toNat < 0xE0) (hb : isContinuation b = true) :
    decodeFrom position (a :: b :: rest) = (decodeFrom (position + 2) rest).map
      (Char.ofNat ((a.toNat - 0xC0) * 64 + (b.toNat - 0x80)) :: ·) := by
  conv => lhs; unfold decodeFrom
  simp only [hb, hHigh, if_neg (show ¬ a.toNat < 0x80 by omega), ↓reduceIte,
    if_neg (show ¬ a.toNat < 0xC2 by omega)]

theorem decodeFrom_three {a b c : UInt8} (position : Nat) (rest : List UInt8)
    (hLow : 0xE0 ≤ a.toNat) (hHigh : a.toNat < 0xF0) (hb : isSecondOfThree a b = true)
    (hc : isContinuation c = true) :
    decodeFrom position (a :: b :: c :: rest) = (decodeFrom (position + 3) rest).map
      (Char.ofNat ((a.toNat - 0xE0) * 4096 + (b.toNat - 0x80) * 64 + (c.toNat - 0x80)) :: ·) := by
  conv => lhs; unfold decodeFrom
  simp only [hb, hc, hHigh, if_neg (show ¬ a.toNat < 0x80 by omega), ↓reduceIte,
    if_neg (show ¬ a.toNat < 0xC2 by omega), if_neg (show ¬ a.toNat < 0xE0 by omega)]

theorem decodeFrom_four {a b c d : UInt8} (position : Nat) (rest : List UInt8)
    (hLow : 0xF0 ≤ a.toNat) (hHigh : a.toNat < 0xF5) (hb : isSecondOfFour a b = true)
    (hc : isContinuation c = true) (hd : isContinuation d = true) :
    decodeFrom position (a :: b :: c :: d :: rest) = (decodeFrom (position + 4) rest).map
      (Char.ofNat ((a.toNat - 0xF0) * 262144 + (b.toNat - 0x80) * 4096 +
        (c.toNat - 0x80) * 64 + (d.toNat - 0x80)) :: ·) := by
  conv => lhs; unfold decodeFrom
  simp only [hb, hc, hd, hHigh, if_neg (show ¬ a.toNat < 0x80 by omega), ↓reduceIte,
    if_neg (show ¬ a.toNat < 0xC2 by omega), if_neg (show ¬ a.toNat < 0xE0 by omega),
    if_neg (show ¬ a.toNat < 0xF0 by omega)]

theorem toNat_ofNat_of_lt {n : Nat} (h : n < 256) : (UInt8.ofNat n).toNat = n :=
  UInt8.toNat_ofNat_of_lt h

theorem isContinuation_ofNat {n : Nat} (h : n < 64) :
    isContinuation (UInt8.ofNat (0x80 + n)) = true := by
  simp only [isContinuation, toNat_ofNat_of_lt (show 0x80 + n < 256 by omega), Bool.and_eq_true,
    decide_eq_true_eq]
  omega

/-- Decoding takes an encoded character off the front. -/
theorem decodeFrom_encodeChar (c : Char) (position : Nat) (rest : List UInt8) :
    ∃ next, decodeFrom position (encodeChar c ++ rest) = (decodeFrom next rest).map (c :: ·) := by
  have hValid : c.toNat < 0xD800 ∨ (0xDFFF < c.toNat ∧ c.toNat < 0x110000) := c.valid
  have hChar : ∀ {n : Nat}, n = c.toNat → Char.ofNat n = c := by
    rintro _ rfl
    exact Char.ofNat_toNat c
  have hLast := isContinuation_ofNat (show c.toNat % 64 < 64 by omega)
  have hThird := isContinuation_ofNat (show c.toNat / 64 % 64 < 64 by omega)
  have hSecond := isContinuation_ofNat (show c.toNat / 4096 % 64 < 64 by omega)
  have tLast := toNat_ofNat_of_lt (show 0x80 + c.toNat % 64 < 256 by omega)
  have tThird := toNat_ofNat_of_lt (show 0x80 + c.toNat / 64 % 64 < 256 by omega)
  have tSecond := toNat_ofNat_of_lt (show 0x80 + c.toNat / 4096 % 64 < 256 by omega)
  simp only [encodeChar]
  split
  · have h1 := toNat_ofNat_of_lt (show c.toNat < 256 by omega)
    refine ⟨position + 1, ?_⟩
    rw [List.cons_append, List.nil_append, decodeFrom_one _ _ (by omega), hChar h1]
  split
  · have h1 := toNat_ofNat_of_lt (show 0xC0 + c.toNat / 64 < 256 by omega)
    refine ⟨position + 2, ?_⟩
    rw [List.cons_append, List.cons_append, List.nil_append,
      decodeFrom_two _ _ (by omega) (by omega) hLast, hChar (by omega)]
  split
  · have h1 := toNat_ofNat_of_lt (show 0xE0 + c.toNat / 4096 < 256 by omega)
    refine ⟨position + 3, ?_⟩
    rw [List.cons_append, List.cons_append, List.cons_append, List.nil_append,
      decodeFrom_three _ _ (by omega) (by omega) ?_ hLast, hChar (by omega)]
    simp only [isSecondOfThree, hThird, h1, tThird, Bool.true_and, Bool.and_eq_true,
      Bool.not_eq_true', Bool.and_eq_false_iff, beq_eq_false_iff_ne, decide_eq_false_iff_not]
    omega
  · have h1 := toNat_ofNat_of_lt (show 0xF0 + c.toNat / 262144 < 256 by omega)
    refine ⟨position + 4, ?_⟩
    rw [List.cons_append, List.cons_append, List.cons_append, List.cons_append, List.nil_append,
      decodeFrom_four _ _ (by omega) (by omega) ?_ hThird hLast, hChar (by omega)]
    simp only [isSecondOfFour, hSecond, h1, tSecond, Bool.true_and, Bool.and_eq_true,
      Bool.not_eq_true', Bool.and_eq_false_iff, beq_eq_false_iff_ne, decide_eq_false_iff_not]
    omega

theorem decodeFrom_flatMap_encodeChar (cs : List Char) (position : Nat) :
    decodeFrom position (cs.flatMap encodeChar) = .ok cs := by
  induction cs generalizing position with
  | nil => rfl
  | cons c cs ih =>
    obtain ⟨next, h⟩ := decodeFrom_encodeChar c position (cs.flatMap encodeChar)
    rw [List.flatMap_cons, h, ih]
    rfl

/-- Decoding inverts encoding. -/
@[simp] theorem decode_encode (s : String) : decode (encode s) = .ok s := by
  simp [decode, encode, decodeFrom_flatMap_encodeChar, Except.map]

end ReportPress.Text.Utf8
