import Lockstep.Proofs.Translation

/-!
# Line ends in netascii

Writing a text in netascii loses nothing, and reading it is the same whether the stream comes as a
whole or in pieces that are cut anywhere. Many streams are read as the same text; the one that is
written for it is told from the others by its line ends alone: in it every carriage return stands
before a line feed or a zero, and every line feed behind a carriage return.
-/

namespace Lockstep.Netascii

/-! ## Pieces -/

namespace Decoder

/-- Reads pieces one after the other, and tells what each of them settles. -/
def feedEach (decoder : Decoder) : List Bytes → List Bytes × Decoder
  | [] => ([], decoder)
  | piece :: rest =>
    let (settled, next) := decoder.feed piece
    let (others, last) := next.feedEach rest
    (settled :: others, last)

theorem feed_flatten (decoder : Decoder) (pieces : List Bytes) :
    decoder.feed pieces.flatten =
      ((decoder.feedEach pieces).1.flatten, (decoder.feedEach pieces).2) := by
  induction pieces generalizing decoder with
  | nil => rfl
  | cons piece rest ih =>
    rw [List.flatten_cons, feed_append, ih]
    rfl

/-- Where a stream is cut makes no difference, and a reader that has come to its end can read the
next one. -/
theorem feedEach_finish (pieces : List Bytes) :
    (feedEach {} pieces).1.flatten ++ (feedEach {} pieces).2.finish.1 = decode pieces.flatten ∧
      (feedEach {} pieces).2.finish.2 = {} := by
  constructor
  · rw [decode, feed_flatten]
  · rfl

end Decoder

theorem decode_encode (content : Bytes) : decode (encode content) = content := by
  rw [decode, Decoder.feed_encode]
  exact List.append_nil content

/-! ## The written form -/

/-- Every carriage return and every line feed is part of a pair. -/
structure IsPaired (stream : Bytes) : Prop where
  after_return : ∀ position, stream[position]? = some carriageReturn →
    stream[position + 1]? = some lineFeed ∨ stream[position + 1]? = some 0
  before_feed : ∀ position, stream[position]? = some lineFeed →
    0 < position ∧ stream[position - 1]? = some carriageReturn

variable {byte next : UInt8} {stream : Bytes}

theorem isPaired_nil : IsPaired [] where
  after_return := by simp
  before_feed := by simp

theorem not_isPaired_feed : ¬ IsPaired (lineFeed :: stream) :=
  fun h ↦ absurd (h.before_feed 0 rfl).1 (Nat.lt_irrefl 0)

theorem not_isPaired_return : ¬ IsPaired [carriageReturn] := by
  intro h
  rcases h.after_return 0 rfl with hnext | hnext
  · cases hnext
  · cases hnext

theorem isPaired_cons_iff (hreturn : byte ≠ carriageReturn) (hfeed : byte ≠ lineFeed) :
    IsPaired (byte :: stream) ↔ IsPaired stream := by
  constructor
  · intro h
    constructor
    · intro position hposition
      exact h.after_return (position + 1) hposition
    · intro position hposition
      have hbefore := (h.before_feed (position + 1) hposition).2
      cases position with
      | zero => exact absurd (Option.some.inj hbefore) hreturn
      | succ position => exact ⟨Nat.succ_pos position, hbefore⟩
  · intro h
    constructor
    · intro position hposition
      cases position with
      | zero => exact absurd (Option.some.inj hposition) hreturn
      | succ position => exact h.after_return position hposition
    · intro position hposition
      cases position with
      | zero => exact absurd (Option.some.inj hposition) hfeed
      | succ position =>
        obtain ⟨hpos, hbefore⟩ := h.before_feed position hposition
        refine ⟨Nat.succ_pos position, ?_⟩
        obtain ⟨earlier, rfl⟩ := Nat.exists_eq_succ_of_ne_zero (Nat.ne_of_gt hpos)
        exact hbefore

theorem isPaired_pair_iff :
    IsPaired (carriageReturn :: next :: stream) ↔
      (next = lineFeed ∨ next = 0) ∧ IsPaired stream := by
  constructor
  · intro h
    have hnext : next = lineFeed ∨ next = 0 :=
      (h.after_return 0 rfl).imp Option.some.inj Option.some.inj
    have hother : next ≠ carriageReturn := by
      rintro rfl
      exact absurd hnext (by decide)
    refine ⟨hnext, ?_, ?_⟩
    · intro position hposition
      exact h.after_return (position + 2) hposition
    · intro position hposition
      have hbefore := (h.before_feed (position + 2) hposition).2
      cases position with
      | zero => exact absurd (Option.some.inj hbefore) hother
      | succ position => exact ⟨Nat.succ_pos position, hbefore⟩
  · rintro ⟨hnext, h⟩
    constructor
    · intro position hposition
      match position, hposition with
      | 0, _ => exact hnext.imp (congrArg some) (congrArg some)
      | 1, hposition =>
        have hreturn : next = carriageReturn := Option.some.inj hposition
        exact absurd (hreturn ▸ hnext) (by decide)
      | position + 2, hposition => exact h.after_return position hposition
    · intro position hposition
      match position, hposition with
      | 0, hposition => exact absurd (Option.some.inj hposition) (by decide)
      | 1, _ => exact ⟨Nat.one_pos, rfl⟩
      | position + 2, hposition =>
        obtain ⟨hpos, hbefore⟩ := h.before_feed position hposition
        refine ⟨Nat.succ_pos _, ?_⟩
        obtain ⟨earlier, rfl⟩ := Nat.exists_eq_succ_of_ne_zero (Nat.ne_of_gt hpos)
        exact hbefore

theorem isPaired_encode (content : Bytes) : IsPaired (encode content) := by
  induction content with
  | nil => exact isPaired_nil
  | cons byte rest ih =>
    rw [encode, List.flatMap_cons, encodeByte]
    split
    · exact isPaired_pair_iff.mpr ⟨.inr rfl, ih⟩
    · next hreturn =>
      split
      · exact isPaired_pair_iff.mpr ⟨.inl rfl, ih⟩
      · next hfeed => exact (isPaired_cons_iff hreturn hfeed).mpr ih

/-- A stream of pairs and ordinary bytes has been written for some text. -/
theorem IsPaired.exists_encode {stream : Bytes} (h : IsPaired stream) :
    ∃ content, encode content = stream := by
  match stream, h with
  | [], _ => exact ⟨[], rfl⟩
  | byte :: rest, h =>
    by_cases hreturn : byte = carriageReturn
    · subst hreturn
      cases rest with
      | nil => exact absurd h not_isPaired_return
      | cons next others =>
        obtain ⟨hnext, hothers⟩ := isPaired_pair_iff.mp h
        obtain ⟨content, rfl⟩ := hothers.exists_encode
        rcases hnext with rfl | rfl
        · exact ⟨lineFeed :: content, rfl⟩
        · exact ⟨carriageReturn :: content, rfl⟩
    · by_cases hfeed : byte = lineFeed
      · subst hfeed
        exact absurd h not_isPaired_feed
      · obtain ⟨content, rfl⟩ := ((isPaired_cons_iff hreturn hfeed).mp h).exists_encode
        refine ⟨byte :: content, ?_⟩
        rw [encode, List.flatMap_cons, encodeByte, if_neg hreturn, if_neg hfeed]
        rfl
termination_by stream.length

/-- Only the written form of a text is written again. -/
theorem encode_decode_iff : encode (decode stream) = stream ↔ IsPaired stream := by
  constructor
  · intro h
    rw [← h]
    exact isPaired_encode (decode stream)
  · intro h
    obtain ⟨content, rfl⟩ := h.exists_encode
    rw [decode_encode]

/-- Netascii is read back as it was written, in whatever pieces it comes, and it is written back as
it was read if and only if its line ends are paired. -/
theorem translation_invertible :
    (∀ content, decode (encode content) = content) ∧
    (∀ pieces, (Decoder.feedEach {} pieces).1.flatten ++
        (Decoder.feedEach {} pieces).2.finish.1 = decode pieces.flatten ∧
      (Decoder.feedEach {} pieces).2.finish.2 = {}) ∧
    ∀ stream, encode (decode stream) = stream ↔ IsPaired stream :=
  ⟨decode_encode, Decoder.feedEach_finish, fun _ ↦ encode_decode_iff⟩

end Lockstep.Netascii
