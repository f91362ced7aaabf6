import ScimLookup.Bytes.Utf8

/-!
# Digests of 512 bits

The digest SHA-512 of a run of bytes. The bytes are filled up to whole blocks of sixteen words.
Eight words go through eighty rounds for each block, each round with a constant of its own and with
the next word of a schedule that the block begins, and what comes out is added to them.
-/

set_option autoImplicit false

namespace ScimLookup.Sha512

/-! ## Words -/

/-- Eight words. -/
structure Words where
  a : UInt64
  b : UInt64
  c : UInt64
  d : UInt64
  e : UInt64
  f : UInt64
  g : UInt64
  h : UInt64
deriving DecidableEq, Repr

/-- The words before the first block: of the square roots of the first eight primes, the first 64
bits behind the point. -/
def start : Words :=
  ⟨0x6A09E667F3BCC908, 0xBB67AE8584CAA73B, 0x3C6EF372FE94F82B, 0xA54FF53A5F1D36F1,
   0x510E527FADE682D1, 0x9B05688C2B3E6C1F, 0x1F83D9ABFB41BD6B, 0x5BE0CD19137E2179⟩

/-- The constants: of the cube roots of the first eighty primes, the first 64 bits behind the
point. -/
def constants : List UInt64 := [
    0x428A2F98D728AE22, 0x7137449123EF65CD, 0xB5C0FBCFEC4D3B2F, 0xE9B5DBA58189DBBC,
    0x3956C25BF348B538, 0x59F111F1B605D019, 0x923F82A4AF194F9B, 0xAB1C5ED5DA6D8118,
    0xD807AA98A3030242, 0x12835B0145706FBE, 0x243185BE4EE4B28C, 0x550C7DC3D5FFB4E2,
    0x72BE5D74F27B896F, 0x80DEB1FE3B1696B1, 0x9BDC06A725C71235, 0xC19BF174CF692694,
    0xE49B69C19EF14AD2, 0xEFBE4786384F25E3, 0x0FC19DC68B8CD5B5, 0x240CA1CC77AC9C65,
    0x2DE92C6F592B0275, 0x4A7484AA6EA6E483, 0x5CB0A9DCBD41FBD4, 0x76F988DA831153B5,
    0x983E5152EE66DFAB, 0xA831C66D2DB43210, 0xB00327C898FB213F, 0xBF597FC7BEEF0EE4,
    0xC6E00BF33DA88FC2, 0xD5A79147930AA725, 0x06CA6351E003826F, 0x142929670A0E6E70,
    0x27B70A8546D22FFC, 0x2E1B21385C26C926, 0x4D2C6DFC5AC42AED, 0x53380D139D95B3DF,
    0x650A73548BAF63DE, 0x766A0ABB3C77B2A8, 0x81C2C92E47EDAEE6, 0x92722C851482353B,
    0xA2BFE8A14CF10364, 0xA81A664BBC423001, 0xC24B8B70D0F89791, 0xC76C51A30654BE30,
    0xD192E819D6EF5218, 0xD69906245565A910, 0xF40E35855771202A, 0x106AA07032BBD1B8,
    0x19A4C116B8D2D0C8, 0x1E376C085141AB53, 0x2748774CDF8EEB99, 0x34B0BCB5E19B48A8,
    0x391C0CB3C5C95A63, 0x4ED8AA4AE3418ACB, 0x5B9CCA4F7763E373, 0x682E6FF3D6B2B8A3,
    0x748F82EE5DEFB2FC, 0x78A5636F43172F60, 0x84C87814A1F0AB72, 0x8CC702081A6439EC,
    0x90BEFFFA23631E28, 0xA4506CEBDE82BDE9, 0xBEF9A3F7B2C67915, 0xC67178F2E372532B,
    0xCA273ECEEA26619C, 0xD186B8C721C0C207, 0xEADA7DD6CDE0EB1E, 0xF57D4F7FEE6ED178,
    0x06F067AA72176FBA, 0x0A637DC5A2C898A6, 0x113F9804BEF90DAE, 0x1B710B35131C471B,
    0x28DB77F523047D84, 0x32CAAB7B40C72493, 0x3C9EBE0A15C9BEBC, 0x431D67C49C100D4C,
    0x4CC5D4BECB3E42B6, 0x597F299CFC657E2A, 0x5FCB6FAB3AD6FAEC, 0x6C44198C4A475817]

/-- The sum of two eights, word by word. -/
def Words.add (x y : Words) : Words :=
  ⟨x.a + y.a, x.b + y.b, x.c + y.c, x.d + y.d, x.e + y.e, x.f + y.f, x.g + y.g, x.h + y.h⟩

/-- Turn a word to the right. -/
def turned (n x : UInt64) : UInt64 :=
  (x >>> n) ||| (x <<< (64 - n))

/-! ## Rounds -/

/-- The next word of the schedule, from the sixteen before it. -/
def nextWord (ws : List UInt64) : UInt64 :=
  let w (i : Nat) := ws.getD i 0
  let low := turned 1 (w 1) ^^^ turned 8 (w 1) ^^^ (w 1 >>> 7)
  let high := turned 19 (w 14) ^^^ turned 61 (w 14) ^^^ (w 14 >>> 6)
  w 0 + low + w 9 + high

/-- One round with a constant and a word of the schedule. -/
def round (s : Words) (constant word : UInt64) : Words :=
  let choice := (s.e &&& s.f) ^^^ (~~~s.e &&& s.g)
  let most := (s.a &&& s.b) ^^^ (s.a &&& s.c) ^^^ (s.b &&& s.c)
  let first := s.h + (turned 14 s.e ^^^ turned 18 s.e ^^^ turned 41 s.e) + choice + constant + word
  let second := (turned 28 s.a ^^^ turned 34 s.a ^^^ turned 39 s.a) + most
  ⟨first + second, s.a, s.b, s.c, s.d + first, s.e, s.f, s.g⟩

/-- All rounds, with the sixteen words of the schedule that are next. -/
def rounds (s : Words) : List UInt64 → List UInt64 → Words
  | [], _ => s
  | constant :: constants, ws =>
    rounds (round s constant (ws.getD 0 0)) constants (ws.drop 1 ++ [nextWord ws])

/-- The words after one more block. -/
def absorb (s : Words) (block : List UInt64) : Words :=
  s.add (rounds s constants block)

/-! ## Bytes -/

/-- The word of eight bytes, the highest first. -/
def wordOf (bs : Bytes) : UInt64 :=
  bs.foldl (fun n b => n * 256 + b.toUInt64) 0

/-- The bytes of a word, the highest first. -/
def bytesOf (x : UInt64) : Bytes :=
  (List.range 8).reverse.map fun i => (x >>> (8 * i.toUInt64)).toUInt8

/-- The words of some bytes. -/
def wordsOf (bs : Bytes) : List UInt64 :=
  (List.range (bs.length / 8)).map fun i => wordOf ((bs.drop (8 * i)).take 8)

/-- The bytes filled up to whole blocks: one bit that is set, and at the end how many bits there
were. -/
def filled (bs : Bytes) : Bytes :=
  let zeros := (239 - bs.length % 128) % 128
  bs ++ 0x80 :: (List.replicate (zeros + 8) 0 ++ bytesOf (8 * bs.length.toUInt64))

/-- The digest of some bytes. -/
def digest (bs : Bytes) : Bytes :=
  let words := wordsOf (filled bs)
  let blocks := (List.range (words.length / 16)).map fun i => (words.drop (16 * i)).take 16
  let s := blocks.foldl absorb start
  [s.a, s.b, s.c, s.d, s.e, s.f, s.g, s.h].flatMap bytesOf

end ScimLookup.Sha512
