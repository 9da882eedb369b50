/-!
# UTF-8

Bytes and the texts they spell. Reading takes the bytes apart into *pieces*, from the left: a
well-formed sequence is a character, and any other piece is the longest start of a well-formed
sequence there is at that point (at least one byte).

* `encode`: the bytes of a text;
* `decode?`: the text of bytes that are well-formed throughout;
* `decodeLossy`: the text of any bytes, with `U+FFFD` for each ill-formed piece;
* `decodeLossy_eq_of_decode?`: the two readings agree where both exist.
-/

namespace ShopClient.Text

/-- A sequence of bytes: the body of a message or the content of a file. -/
abbrev Bytes := List UInt8

namespace Utf8

/-- The bytes of a character. -/
def encodeChar (c : Char) : Bytes :=
  let n := c.toNat
  if n < 0x80 then [.ofNat n]
  else if n < 0x800 then [.ofNat (0xC0 + n / 64), .ofNat (0x80 + n % 64)]
  else if n < 0x10000 then
    [.ofNat (0xE0 + n / 4096), .ofNat (0x80 + n / 64 % 64), .ofNat (0x80 + n % 64)]
  else
    [.ofNat (0xF0 + n / 262144), .ofNat (0x80 + n / 4096 % 64), .ofNat (0x80 + n / 64 % 64),
      .ofNat (0x80 + n % 64)]

/-- The bytes of a text. -/
def encode (s : String) : Bytes :=
  s.toList.flatMap encodeChar

/-- Whether `b` lies between `lo` and `hi`. -/
def within (lo hi b : UInt8) : Bool := lo ≤ b && b ≤ hi

/-- The six bits that a continuation byte carries. -/
def tail (b : UInt8) : Nat := b.toNat - 0x80

/-- The range of the second byte after the first byte `b` of a sequence of three or four bytes.
    It leaves out the overlong forms, the surrogates and all beyond `U+10FFFF`. -/
def secondRange (b : UInt8) : UInt8 × UInt8 :=
  if b == 0xE0 then (0xA0, 0xBF)
  else if b == 0xED then (0x80, 0x9F)
  else if b == 0xF0 then (0x90, 0xBF)
  else if b == 0xF4 then (0x80, 0x8F)
  else (0x80, 0xBF)

/-- The piece that starts with the byte `b`, given the bytes after it: its character, if it is
    well-formed, and how many of the bytes after `b` belong to it. -/
def piece (b : UInt8) (rest : Bytes) : Option Char × Nat :=
  if b < 0x80 then (some (.ofNat b.toNat), 0)
  else if within 0xC2 0xDF b then
    match rest with
    | b₁ :: _ =>
      if within 0x80 0xBF b₁ then (some (.ofNat ((b.toNat - 0xC0) * 64 + tail b₁)), 1)
      else (none, 0)
    | [] => (none, 0)
  else if within 0xE0 0xEF b then
    match rest with
    | b₁ :: more =>
      if within (secondRange b).1 (secondRange b).2 b₁ then
        match more with
        | b₂ :: _ =>
          if within 0x80 0xBF b₂ then
            (some (.ofNat ((b.toNat - 0xE0) * 4096 + tail b₁ * 64 + tail b₂)), 2)
          else (none, 1)
        | [] => (none, 1)
      else (none, 0)
    | [] => (none, 0)
  else if within 0xF0 0xF4 b then
    match rest with
    | b₁ :: more =>
      if within (secondRange b).1 (secondRange b).2 b₁ then
        match more with
        | b₂ :: more =>
          if within 0x80 0xBF b₂ then
            match more with
            | b₃ :: _ =>
              if within 0x80 0xBF b₃ then
                (some (.ofNat ((b.toNat - 0xF0) * 262144 + tail b₁ * 4096 + tail b₂ * 64 + tail b₃)),
                  3)
              else (none, 2)
            | [] => (none, 2)
          else (none, 1)
        | [] => (none, 1)
      else (none, 0)
    | [] => (none, 0)
  else (none, 0)

/-- The pieces of `bs` from left to right: characters, and `none` for what is ill-formed. -/
def pieces : Bytes → List (Option Char)
  | [] => []
  | b :: rest => (piece b rest).1 :: pieces (rest.drop (piece b rest).2)
termination_by bs => bs.length

/-- The text of `bs`, if they are well-formed throughout. -/
def decode? (bs : Bytes) : Option String :=
  ((pieces bs).mapM id).map String.ofList

/-- What stands for an ill-formed piece. -/
def replacement : Char := '\uFFFD'

/-- The text of `bs`, with the replacement character for each ill-formed piece. -/
def decodeLossy (bs : Bytes) : String :=
  String.ofList ((pieces bs).map (·.getD replacement))

/-- On well-formed bytes the lossy reading loses nothing. -/
theorem decodeLossy_eq_of_decode? {bs : Bytes} {s : String} (h : decode? bs = some s) :
    decodeLossy bs = s := by
  obtain ⟨cs, hcs, rfl⟩ := Option.map_eq_some_iff.1 h
  have key : ∀ (ps : List (Option Char)) (cs : List Char), ps.mapM id = some cs →
      ps.map (·.getD replacement) = cs := by
    intro ps
    induction ps with
    | nil => intro cs h; simp at h; simp [h]
    | cons p ps ih =>
      intro cs h
      simp only [List.mapM_cons, id, Option.bind_eq_bind, Option.bind_eq_some_iff,
        Option.pure_def, Option.some.injEq] at h
      obtain ⟨c, rfl, cs', h', rfl⟩ := h
      simp [ih cs' h']
  rw [decodeLossy, key _ _ hcs]

end Utf8

end ShopClient.Text
