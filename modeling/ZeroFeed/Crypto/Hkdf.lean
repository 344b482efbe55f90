import ZeroFeed.Core.Rfc5869
import ZeroFeed.Core.Slices
import ZeroFeed.Crypto.Cipher

/-!
# HKDF on buffers (`HKDFSHA256` and `ZeroBytes` of `pkg/crypto`)

`Cipher.hkdfSHA256` computes with values.  Here the same function runs on the
buffers of the source: the blocks are separate slices, the output grows by `append`,
and every block is overwritten with zeros once the next one is computed.  The run
is compared with RFC 5869 and with the function on values.

The registry of pinned buffers that `ZeroBytes` also clears is left out: nothing
here registers a buffer.
-/

namespace ZeroFeed.Hkdf

open ZeroFeed.ByteString
open ZeroFeed.Cipher
open ZeroFeed.Primitives
open ZeroFeed.Slices

/-- How a call fails; a slice expression out of range is a run-time panic. -/
inductive HkdfError where
  | emptySecret
  | sliceOutOfRange
  deriving DecidableEq

/-- `ZeroBytes` overwrites `b[:cap(b)]`, unless `b` is empty. -/
def zeroBytes (heap : Heap Byte) (b : Slice) : Heap Byte := heap.wipe b

variable (suite : Suite) (growth : Growth)

/-- `hmac.New(sha256.New, key)`, a `Write` of each part and of the last bytes, and
`Sum(nil)`. -/
def hmacSum (key : Slice) (parts : List Slice) (last : Bytes) (heap : Heap Byte) :
    Slice × Heap Byte :=
  let digest := suite.hmac (heap.contents key) ((parts.map heap.contents).flatten ++ last)
  (heap.useAll (key :: parts)).append growth .nil digest.val

/-- The variables of the expand loop. -/
structure Expansion where
  heap : Heap Byte
  prev : Slice
  okm : Slice
  counter : Byte

/-- `if len(prev) > 0 { ZeroBytes(prev) }`. -/
def zeroPrev (heap : Heap Byte) (prev : Slice) : Heap Byte :=
  if 0 < prev.len then zeroBytes heap prev else heap

/-- The body of the expand loop. -/
def round (prk info : Slice) (state : Expansion) : Expansion :=
  let (nextPrev, heap) :=
    hmacSum suite growth prk [state.prev, info] [state.counter] state.heap
  let heap := zeroPrev heap state.prev
  let (okm, heap) := (heap.use nextPrev).append growth state.okm (heap.contents nextPrev)
  ⟨heap, nextPrev, okm, state.counter + 1⟩

/-- The expand loop.  Its fuel is never exhausted when it starts with `length`. -/
def expand (prk info : Slice) (length : ℕ) : (fuel : ℕ) → Expansion → Expansion
  | 0, state => state
  | fuel + 1, state =>
      if state.okm.len < length then
        expand prk info length fuel (round suite growth prk info state)
      else state

/-- What follows the loop, with the deferred `ZeroBytes(prk)`. -/
def finish (prk : Slice) (length : ℕ) (state : Expansion) : Except HkdfError Slice × Heap Byte :=
  let heap := zeroPrev state.heap state.prev
  let (result, heap) := heap.make length
  match state.okm.upTo length with
  | none => (.error .sliceOutOfRange, zeroBytes heap prk)
  | some source =>
      let heap := heap.copy result source
      let heap := zeroBytes heap state.okm
      (.ok result, zeroBytes heap prk)

def hkdfSHA256 (secret salt info : Slice) (length : ℕ) (heap : Heap Byte) :
    Except HkdfError Slice × Heap Byte :=
  if secret.len = 0 then (.error .emptySecret, heap)
  else
    let (salt, heap) :=
      if salt.len = 0 then
        heap.allocate (ascii "zerofeed-v2-default-salt") (ascii "zerofeed-v2-default-salt").length
      else (salt, heap)
    let (prk, heap) := hmacSum suite growth salt [secret] [] heap
    finish prk length (expand suite growth prk info length length ⟨heap, .nil, .nil, 1⟩)

variable {suite growth} {start : Memory Byte} {heap : Heap Byte}
variable {pieces : List (Slice × Bytes)}

theorem owns_zeroBytes {b : Slice} {items : Bytes}
    (howns : Owns start ((b, items) :: pieces) heap) : Owns start pieces (zeroBytes heap b) :=
  howns.wipe

theorem owns_hmacSum (suite : Suite) (growth : Growth) {key : Slice} {parts : List Slice}
    (howns : Owns start pieces heap) (hlive : ∀ part ∈ key :: parts, heap.Live part)
    (last : Bytes) :
    Owns start
      (((hmacSum suite growth key parts last heap).1,
        (suite.hmac (heap.contents key)
          ((parts.map heap.contents).flatten ++ last)).val) :: pieces)
      (hmacSum suite growth key parts last heap).2 := by
  apply (howns.useAll hlive).append_nil growth
  rw [(suite.hmac _ _).property]
  decide

theorem zeroPrev_eq (heap : Heap Byte) (prev : Slice) :
    zeroPrev heap prev = zeroBytes heap prev := by
  rw [zeroPrev]
  split_ifs with hlen
  · rfl
  · rw [zeroBytes, Heap.wipe, if_pos (by omega)]

/-! ## The expand loop -/

section Loop

variable (suite start) (prk : Slice) (key text : Bytes)

/-- The state after `n` rounds.  Before the first one nothing but the key is owned; after
it the last block, the output so far and the key lie in three arrays. -/
inductive Expanding : (n : ℕ) → Expansion → Prop
  | first {heap : Heap Byte} (howns : Owns start [(prk, key)] heap) :
      Expanding 0 ⟨heap, .nil, .nil, 1⟩
  | later {n : ℕ} {heap : Heap Byte} {prev okm : Slice}
      (howns : Owns start
        [(prev, Rfc5869.block suite.hmac key text (n + 1)),
          (okm, Rfc5869.stream suite.hmac key text (n + 1)), (prk, key)] heap) :
      Expanding (n + 1) ⟨heap, prev, okm, UInt8.ofNat (n + 2)⟩

variable {suite start prk key text} {info : Slice} {state : Expansion} {n : ℕ}

theorem Expanding.okm_len (hstate : Expanding suite start prk key text n state) :
    state.okm.len = n * 32 := by
  cases hstate with
  | first howns => rfl
  | later howns =>
      have hlength := howns.swap.head_held.length
      rw [Rfc5869.length_stream] at hlength
      exact hlength.symm

/-- The next block is computed from the last one, which is still intact. -/
theorem owns_nextPrev (growth : Growth) {prev : Slice} (howns : Owns start pieces heap)
    (hprk : (prk, key) ∈ pieces) (hinfo : start.Valid info) (htext : start.contents info = text)
    (hlive : heap.Live prev)
    (hprev : heap.contents prev = Rfc5869.block suite.hmac key text n) :
    Owns start
      (((hmacSum suite growth prk [prev, info] [UInt8.ofNat (n + 1)] heap).1,
        Rfc5869.block suite.hmac key text (n + 1)) :: pieces)
      (hmacSum suite growth prk [prev, info] [UInt8.ofNat (n + 1)] heap).2 := by
  have hparts : ∀ part ∈ [prk, prev, info], heap.Live part := by
    simp only [List.forall_mem_cons]
    exact ⟨howns.live_of_mem hprk, hlive, howns.live_of_valid hinfo, List.forall_mem_nil _⟩
  have hmessage : ([prev, info].map heap.contents).flatten ++ [UInt8.ofNat (n + 1)] =
      Rfc5869.block suite.hmac key text n ++ text ++ [UInt8.ofNat (n + 1)] := by
    simp only [List.map_cons, List.map_nil, List.flatten_cons, List.flatten_nil,
      List.append_nil, hprev, howns.contents_of_valid hinfo, htext]
  have hsum := owns_hmacSum suite growth howns hparts [UInt8.ofNat (n + 1)]
  rw [hmessage, howns.contents_of_mem hprk] at hsum
  exact hsum

theorem Expanding.round (hstate : Expanding suite start prk key text n state)
    (hinfo : start.Valid info) (htext : start.contents info = text) :
    Expanding suite start prk key text (n + 1) (round suite growth prk info state) := by
  cases hstate with
  | @first heap howns =>
      have hnext : Owns start
          [((hmacSum suite growth prk [.nil, info] [1] heap).1,
            Rfc5869.block suite.hmac key text 1), (prk, key)]
          (hmacSum suite growth prk [.nil, info] [1] heap).2 :=
        owns_nextPrev growth howns List.mem_cons_self hinfo htext (fun hlen => absurd rfl hlen)
          List.take_zero
      have huse := hnext.use (hnext.live_of_mem List.mem_cons_self)
      have hblock : 0 < (Rfc5869.block suite.hmac key text 1).length := by
        rw [Rfc5869.length_block_succ]
        decide
      simp only [Hkdf.round]
      rw [zeroPrev_eq, zeroBytes, Heap.wipe_nil, hnext.contents_of_mem List.mem_cons_self]
      exact .later (huse.append_nil growth hblock).swap
  | @later n heap prev okm howns =>
      have hprk : (prk, key) ∈ [(prev, Rfc5869.block suite.hmac key text (n + 1)),
          (okm, Rfc5869.stream suite.hmac key text (n + 1)), (prk, key)] := by
        simp
      have hnext := owns_nextPrev growth howns hprk hinfo htext
        (howns.live_of_mem List.mem_cons_self) howns.head_held.contents
      -- the last block has been read for the last time
      have hwiped := owns_zeroBytes hnext.swap
      have huse := hwiped.use (hwiped.live_of_mem List.mem_cons_self)
      simp only [Hkdf.round]
      rw [zeroPrev_eq, hwiped.head_held.contents, ← UInt8.ofNat_one, ← UInt8.ofNat_add]
      exact .later (huse.swap.append growth _).swap

theorem Expanding.expand (hstate : Expanding suite start prk key text n state)
    (hinfo : start.Valid info) (htext : start.contents info = text) {length fuel : ℕ}
    (hfuel : length ≤ (n + fuel) * 32) :
    ∃ final, length ≤ final * 32 ∧
      Expanding suite start prk key text final
        (expand suite growth prk info length fuel state) := by
  induction fuel generalizing n state with
  | zero => exact ⟨n, hfuel, hstate⟩
  | succ fuel ih =>
      rw [Hkdf.expand]
      split_ifs with hshort
      · apply ih (hstate.round hinfo htext)
        omega
      · rw [hstate.okm_len] at hshort
        exact ⟨n, not_lt.mp hshort, hstate⟩

end Loop

/-! ## The whole function -/

section Whole

variable {prk : Slice} {key text : Bytes} {state : Expansion} {n length : ℕ}

theorem Expanding.finish (hstate : Expanding suite start prk key text n state)
    (hlength : length ≤ n * 32) :
    ∃ result heap, finish prk length state = (.ok result, heap) ∧
      Owns start [(result, (Rfc5869.stream suite.hmac key text n).take length)] heap := by
  cases hstate with
  | @first heap howns =>
      obtain rfl : length = 0 := by omega
      have hempty : (heap.make 0).2.contents .nil = [] := List.take_zero
      have hcopy := (howns.make 0).copy hempty (fun hlen => absurd rfl hlen) rfl
      refine ⟨_, _, rfl, ?_⟩
      exact owns_zeroBytes hcopy.swap
  | @later n heap prev okm howns =>
      have hmake := (owns_zeroBytes howns).make length
      have hokm := hmake.swap.head_held
      have hlen : length ≤ okm.len := by
        rw [← hokm.length, Rfc5869.length_stream]
        exact hlength
      have hupTo : okm.upTo length = some { okm with len := length } :=
        if_pos (hlen.trans hokm.len_le)
      have hsource :=
        (Memory.contents_take _ hlen).trans (congrArg (List.take length) hokm.contents)
      have hfront :
          ((Rfc5869.stream suite.hmac key text (n + 1)).take length).length = length := by
        rw [List.length_take, Rfc5869.length_stream, min_eq_left hlength]
      have hunwiped := hmake.swap.unwiped_of_mem List.mem_cons_self
      have hcopy := hmake.copy hsource (fun _ => hunwiped) hfront
      simp only [Hkdf.finish, zeroPrev_eq, hupTo]
      refine ⟨_, _, rfl, ?_⟩
      exact owns_zeroBytes (owns_zeroBytes hcopy.swap).swap

/-- The salt of the extract step. -/
def saltOf (salt : Bytes) : Bytes :=
  if salt.length = 0 then ascii "zerofeed-v2-default-salt" else salt

theorem owns_prk (suite : Suite) (growth : Growth) {salt : Slice} {saltBytes : Bytes}
    (secret : start.View) (howns : Owns start pieces heap) (hlive : heap.Live salt)
    (hsalt : heap.contents salt = saltBytes) :
    Owns start
      (((hmacSum suite growth salt [secret.val] [] heap).1,
        Rfc5869.extract suite.hmac saltBytes (start.contents secret.val)) :: pieces)
      (hmacSum suite growth salt [secret.val] [] heap).2 := by
  have hparts : ∀ part ∈ [salt, secret.val], heap.Live part := by
    simp only [List.forall_mem_cons]
    exact ⟨hlive, howns.live_of_valid secret.property, List.forall_mem_nil _⟩
  have hmessage : ([secret.val].map heap.contents).flatten ++ [] =
      start.contents secret.val := by
    simp only [List.map_cons, List.map_nil, List.flatten_cons, List.flatten_nil,
      List.append_nil, howns.contents_of_valid secret.property]
  have hsum := owns_hmacSum suite growth howns hparts []
  rw [hmessage, hsalt] at hsum
  exact hsum

/-- From the key on. -/
theorem owns_finish (suite : Suite) (growth : Growth) (info : start.View) (length : ℕ)
    (howns : Owns start [(prk, key)] heap) :
    ∃ n result final, length ≤ n * 32 ∧
      Hkdf.finish prk length
          (expand suite growth prk info.val length length ⟨heap, .nil, .nil, 1⟩) =
        (.ok result, final) ∧
      Owns start [(result,
        (Rfc5869.stream suite.hmac key (start.contents info.val) n).take length)] final := by
  obtain ⟨n, hlength, hstate⟩ :=
    (Expanding.first howns).expand info.property rfl (by omega : length ≤ (0 + length) * 32)
  obtain ⟨result, final, hfinish, hfinal⟩ := hstate.finish hlength
  exact ⟨n, result, final, hlength, hfinish, hfinal⟩

/-- A call on a secret succeeds and owns nothing but its result. -/
theorem owns_hkdfSHA256 (suite : Suite) (growth : Growth) (secret salt info : start.View)
    (hsecret : secret.val.len ≠ 0) (length : ℕ) :
    ∃ n result heap, length ≤ n * 32 ∧
      hkdfSHA256 suite growth secret.val salt.val info.val length ⟨start, []⟩ =
        (.ok result, heap) ∧
      Owns start
        [(result, (Rfc5869.stream suite.hmac
          (Rfc5869.extract suite.hmac (saltOf (start.contents salt.val))
            (start.contents secret.val)) (start.contents info.val) n).take length)] heap := by
  have hlength := start.length_contents salt
  rw [hkdfSHA256, if_neg hsecret]
  by_cases hsalt : salt.val.len = 0
  · rw [if_pos hsalt]
    apply owns_finish
    rw [saltOf, if_pos (hlength.trans hsalt)]
    have hdefault := (owns_start start).allocate (ascii "zerofeed-v2-default-salt") le_rfl
    rw [List.take_length] at hdefault
    have hprk := owns_prk suite growth secret hdefault (hdefault.live_of_mem List.mem_cons_self)
      hdefault.head_held.contents
    exact hprk.swap.forget
  · rw [if_neg hsalt]
    apply owns_finish
    rw [saltOf, if_neg (by rw [hlength]; exact hsalt)]
    have hstart := owns_start start
    exact owns_prk suite growth secret hstart (hstart.live_of_valid salt.property) rfl

/-! ## The function on values -/

theorem hkdfExpand_eq (suite : Suite) (prk info : Bytes) {length fuel n : ℕ}
    (hfuel : length ≤ (n + fuel) * 32) :
    ∃ final, length ≤ final * 32 ∧
      hkdfExpand suite prk info length fuel (Rfc5869.block suite.hmac prk info n)
          (Rfc5869.stream suite.hmac prk info n) (UInt8.ofNat (n + 1)) =
        Rfc5869.stream suite.hmac prk info final := by
  induction fuel generalizing n with
  | zero => exact ⟨n, hfuel, rfl⟩
  | succ fuel ih =>
      rw [hkdfExpand]
      split_ifs with hshort
      · have hnext := @ih (n + 1) (by omega)
        rw [UInt8.ofNat_add (n + 1) 1] at hnext
        exact hnext
      · rw [Rfc5869.length_stream] at hshort
        exact ⟨n, not_lt.mp hshort, rfl⟩

theorem cipher_hkdfSHA256_eq (suite : Suite) {secret : Bytes} (salt info : Bytes)
    (hsecret : secret.length ≠ 0) (hlength : length ≤ n * 32) :
    Cipher.hkdfSHA256 suite secret salt info length =
      .ok ((Rfc5869.stream suite.hmac
        (Rfc5869.extract suite.hmac (saltOf salt) secret) info n).take length) := by
  obtain ⟨final, hfinal, hexpand⟩ := @hkdfExpand_eq suite
    (Rfc5869.extract suite.hmac (saltOf salt) secret) info length length 0 (by omega)
  rw [Cipher.hkdfSHA256, if_neg hsecret]
  apply congrArg Except.ok
  calc
    _ = (Rfc5869.stream suite.hmac (Rfc5869.extract suite.hmac (saltOf salt) secret)
          info final).take length := congrArg (List.take length) hexpand
    _ = _ := Rfc5869.take_stream hfinal hlength

/-- On the same inputs the buffers end with what the function on values returns, the
inputs are untouched and no buffer is used after it has been overwritten. -/
theorem hkdfSHA256_refines (suite : Suite) (growth : Growth) (secret salt info : start.View)
    (hsecret : secret.val.len ≠ 0) (length : ℕ) :
    ∃ result heap,
      hkdfSHA256 suite growth secret.val salt.val info.val length ⟨start, []⟩ =
        (.ok result, heap) ∧
      Cipher.hkdfSHA256 suite (start.contents secret.val) (start.contents salt.val)
        (start.contents info.val) length = .ok (heap.contents result) ∧
      (∀ index < start.next, heap.arrays index = start.arrays index) ∧ Orderly heap.log := by
  obtain ⟨n, result, heap, hlength, hrun, howns⟩ :=
    owns_hkdfSHA256 suite growth secret salt info hsecret length
  have hnonempty : (start.contents secret.val).length ≠ 0 := by
    rw [start.length_contents]
    exact hsecret
  refine ⟨result, heap, hrun, ?_, howns.outside, howns.orderly⟩
  rw [howns.head_held.contents]
  exact cipher_hkdfSHA256_eq suite _ _ hnonempty hlength

/-! ## Conformance -/

/-- For every non-empty secret and salt and every length RFC 5869 allows, the call returns
the output the RFC defines.  No buffer is used after it has been overwritten, and a
shorter output is the beginning of a longer one. -/
theorem hkdfSHA256_conforms (suite : Suite) (growth : Growth) (memory : Memory Byte)
    (secret salt info : memory.View) (hsecret : secret.val.len ≠ 0) (hsalt : salt.val.len ≠ 0)
    {length : ℕ} (hlength : length ≤ 255 * 32) :
    ∃ result heap,
      hkdfSHA256 suite growth secret.val salt.val info.val length ⟨memory, []⟩ =
        (.ok result, heap) ∧
      Rfc5869.hkdf suite.hmac (memory.contents salt.val) (memory.contents secret.val)
        (memory.contents info.val) length = some (heap.contents result) ∧
      Orderly heap.log ∧
      ∀ smaller ≤ length, ∃ shorter heap',
        hkdfSHA256 suite growth secret.val salt.val info.val smaller ⟨memory, []⟩ =
          (.ok shorter, heap') ∧
        heap'.contents shorter <+: heap.contents result := by
  obtain ⟨n, result, heap, hn, hrun, howns⟩ :=
    owns_hkdfSHA256 suite growth secret salt info hsecret length
  have hsaltOf : saltOf (memory.contents salt.val) = memory.contents salt.val := by
    rw [saltOf, if_neg (by rw [memory.length_contents]; exact hsalt)]
  refine ⟨result, heap, hrun, ?_, howns.orderly, ?_⟩
  · rw [howns.head_held.contents, hsaltOf]
    exact Rfc5869.expand_eq (by decide) hlength hn
  · intro smaller hsmaller
    obtain ⟨m, shorter, heap', hm, hrun', howns'⟩ :=
      owns_hkdfSHA256 suite growth secret salt info hsecret smaller
    refine ⟨shorter, heap', hrun', ?_⟩
    rw [howns.head_held.contents, howns'.head_held.contents,
      Rfc5869.take_stream hm (hsmaller.trans hn)]
    exact List.take_prefix_take_left hsmaller

/-- One array of six bytes. -/
def sampleMemory : Memory Byte where
  arrays _ := [1, 2, 3, 4, 5, 6]
  next := 1

def sampleView (offset len : ℕ) (hinside : offset + len ≤ 6) : sampleMemory.View :=
  ⟨⟨0, offset, len, len⟩, .inr ⟨Nat.zero_lt_one, hinside⟩⟩

/-- Two blocks, from a secret and a salt that overlap. -/
theorem hkdfSHA256_conforms_two_blocks :
    ∃ result heap,
      hkdfSHA256 transparent (fun cap _ => cap) ⟨0, 0, 3, 3⟩ ⟨0, 2, 2, 2⟩ ⟨0, 4, 2, 2⟩ 40
          ⟨sampleMemory, []⟩ = (.ok result, heap) ∧
      Rfc5869.hkdf transparent.hmac [3, 4] [1, 2, 3] [5, 6] 40 =
        some (heap.contents result) ∧
      Orderly heap.log := by
  obtain ⟨result, heap, hrun, hcontents, horderly, -⟩ :=
    hkdfSHA256_conforms transparent (fun cap _ => cap) sampleMemory
      (sampleView 0 3 (by decide)) (sampleView 2 2 (by decide)) (sampleView 4 2 (by decide))
      (by decide) (by decide) (by decide : 40 ≤ 255 * 32)
  exact ⟨result, heap, hrun, hcontents, horderly⟩

-- The key is array 1 and the blocks are 2 and 4.  The output moves from 3 to 5; what it
-- leaves in 3 is not wiped.
example :
    (hkdfSHA256 transparent (fun _ _ => 0) ⟨0, 0, 3, 3⟩ ⟨0, 2, 2, 2⟩ ⟨0, 4, 2, 2⟩ 40
      ⟨sampleMemory, []⟩).2.log =
      [.use 0, .use 0, .use 1, .use 0, .use 2, .use 1, .use 2, .use 0, .wipe 2, .use 4, .use 3,
        .wipe 4, .use 5, .use 6, .wipe 5, .wipe 1] := by
  decide

end Whole

end ZeroFeed.Hkdf
