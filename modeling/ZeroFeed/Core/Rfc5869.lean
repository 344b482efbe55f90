import ZeroFeed.Core.ByteString

/-!
# HKDF as RFC 5869 defines it

The two steps over an arbitrary mac with digests of `hashLen` bytes.  The blocks
`T(1), T(2), …` are chained and numbered by one octet, so at most 255 of them exist
and longer outputs are undefined.
-/

namespace ZeroFeed.Rfc5869

open ZeroFeed.ByteString

variable {hashLen : ℕ} (hmac : (key message : Bytes) → FixedBytes hashLen)

/-- `PRK = HMAC-Hash(salt, IKM)`. -/
def extract (salt ikm : Bytes) : Bytes := (hmac salt ikm).val

section Expand

variable (prk info : Bytes)

/-- `T(i) = HMAC-Hash(PRK, T(i-1) | info | i)`, with `T(0)` empty. -/
def block : ℕ → Bytes
  | 0 => []
  | i + 1 => (hmac prk (block i ++ info ++ [UInt8.ofNat (i + 1)])).val

/-- `T(1) | T(2) | … | T(count)`. -/
def stream : ℕ → Bytes
  | 0 => []
  | count + 1 => stream count ++ block hmac prk info (count + 1)

/-- The first `length` octets of the stream, where `length ≤ 255 * HashLen`. -/
def expand (length : ℕ) : Option Bytes :=
  if length ≤ 255 * hashLen then
    some ((stream hmac prk info ((length + hashLen - 1) / hashLen)).take length)
  else none

end Expand

def hkdf (salt ikm info : Bytes) (length : ℕ) : Option Bytes :=
  expand hmac (extract hmac salt ikm) info length

variable {hmac} {prk info : Bytes}

theorem length_block_succ (i : ℕ) : (block hmac prk info (i + 1)).length = hashLen :=
  (hmac prk _).property

theorem length_stream (count : ℕ) : (stream hmac prk info count).length = count * hashLen := by
  induction count with
  | zero => rw [stream, List.length_nil, Nat.zero_mul]
  | succ count ih => rw [stream, List.length_append, ih, length_block_succ, Nat.succ_mul]

theorem stream_mono {count more : ℕ} (hle : count ≤ more) :
    stream hmac prk info count <+: stream hmac prk info more := by
  induction hle with
  | refl => exact List.prefix_rfl
  | step _ ih => exact ih.trans (List.prefix_append _ _)

/-- How many blocks were computed does not matter as long as they suffice. -/
theorem take_stream {length count more : ℕ} (hcount : length ≤ count * hashLen)
    (hmore : length ≤ more * hashLen) :
    (stream hmac prk info count).take length = (stream hmac prk info more).take length := by
  have hextra : ∀ {few many : ℕ}, length ≤ few * hashLen → few ≤ many →
      (stream hmac prk info few).take length = (stream hmac prk info many).take length := by
    intro few many hfew hle
    have hmono : stream hmac prk info few <+: stream hmac prk info many := stream_mono hle
    obtain ⟨rest, hrest⟩ := hmono
    rw [← hrest, List.take_append_of_le_length]
    rw [length_stream]
    exact hfew
  rcases Nat.le_total count more with hle | hle
  · exact hextra hcount hle
  · exact (hextra hmore hle).symm

theorem length_le_blocks (hpos : 0 < hashLen) (length : ℕ) :
    length ≤ (length + hashLen - 1) / hashLen * hashLen := by
  have hmod := Nat.mod_lt (length + hashLen - 1) hpos
  have hdiv := Nat.div_add_mod' (length + hashLen - 1) hashLen
  omega

theorem expand_eq (hpos : 0 < hashLen) {length count : ℕ} (hlimit : length ≤ 255 * hashLen)
    (hcount : length ≤ count * hashLen) :
    expand hmac prk info length = some ((stream hmac prk info count).take length) := by
  rw [expand, if_pos hlimit, take_stream (length_le_blocks hpos length) hcount]

end ZeroFeed.Rfc5869
