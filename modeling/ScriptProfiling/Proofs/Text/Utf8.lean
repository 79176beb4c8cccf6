import ScriptProfiling.Trace.Loading
import Mathlib.Data.List.TakeWhile

/-!
# Reading text in chunks

Bytes that are text are read in the same way by the strict reader, by the lenient one, and chunk by
chunk: where a chunk ends within a sequence, its beginning waits for the next chunk.

A sequence has its length by its first byte, so what is missing of it is known before the rest comes
in. The state between two chunks is the text that has been read and the bytes that are left over.
-/
namespace ScriptProfiling

/-- Bytes that write a text, one sequence for each character. -/
inductive Writes : List UInt8 → List Char → Prop
  | nil : Writes [] []
  | cons {b : UInt8} {bs : List UInt8} {c : Char} {length : Nat} {text : List Char}
      (hstep : utf8Step b bs = .char c length) (hrest : Writes (bs.drop (length - 1)) text) :
      Writes (b :: bs) (c :: text)

section Sequence

variable {b : UInt8} {bs rest : List UInt8} {c : Char} {length : Nat}

theorem fittingBytes_le (lead : Nat) (bytes : List Nat) :
    fittingBytes lead bytes ≤ bytes.length := by
  cases bytes with
  | nil => exact Nat.le_refl 0
  | cons n ns =>
    rw [fittingBytes, List.length_cons]
    split
    · have hrun := (ns.takeWhile_prefix isContinuation).length_le
      omega
    · exact Nat.zero_le _

theorem fittingBytes_of_append {lead : Nat} {front back : List Nat}
    (h : fittingBytes lead (front ++ back) = (front ++ back).length) :
    fittingBytes lead front = front.length := by
  cases front with
  | nil => rfl
  | cons n ns =>
    rw [List.cons_append, fittingBytes, List.length_cons] at h
    rw [fittingBytes, List.length_cons]
    split at h
    · next hfits =>
      have hall : ((ns ++ back).takeWhile isContinuation).length = (ns ++ back).length := by omega
      have hfront : ns.takeWhile isContinuation = ns := by
        rw [List.takeWhile_eq_self_iff]
        intro m hm
        have hself := (List.takeWhile_prefix (l := ns ++ back) isContinuation).eq_of_length hall
        exact List.takeWhile_eq_self_iff.mp hself m (List.mem_append_left _ hm)
      rw [if_pos hfits, hfront, Nat.add_comm]
    · omega

/-- A sequence of a character has its length by the first byte, and all other bytes fit. -/
theorem utf8Step_eq_char (h : utf8Step b bs = .char c length) :
    sequenceLength? b.toNat = some length ∧ length - 1 ≤ bs.length ∧
      fittingBytes b.toNat ((bs.take (length - 1)).map UInt8.toNat) = length - 1 := by
  unfold utf8Step at h
  split at h
  · cases h
  · next n hn =>
    dsimp only at h
    split at h
    · next hfitting =>
      obtain ⟨-, rfl⟩ := Utf8Step.char.inj h
      refine ⟨hn, ?_, hfitting⟩
      have hle := fittingBytes_le b.toNat ((bs.take (n - 1)).map UInt8.toNat)
      rw [hfitting, List.length_map, List.length_take] at hle
      omega
    · split at h <;> cases h

theorem utf8Step_of_append (h : utf8Step b (bs ++ rest) = .char c length)
    (hlength : length - 1 ≤ bs.length) : utf8Step b bs = .char c length := by
  obtain ⟨hn, -, -⟩ := utf8Step_eq_char h
  have hahead : (bs ++ rest).take (length - 1) = bs.take (length - 1) := by
    rw [List.take_append_of_le_length hlength]
  unfold utf8Step at h ⊢
  rw [hn] at h ⊢
  dsimp only at h ⊢
  rwa [hahead] at h

theorem utf8Step_of_short (h : utf8Step b (bs ++ rest) = .char c length)
    (hlength : bs.length < length - 1) :
    utf8Step b bs = .fault .unexpectedEnd (1 + bs.length) := by
  obtain ⟨hn, hle, hfitting⟩ := utf8Step_eq_char h
  have hbs : bs.take (length - 1) = bs := List.take_of_length_le (Nat.le_of_lt hlength)
  have hahead : (bs ++ rest).take (length - 1) = bs ++ rest.take (length - 1 - bs.length) := by
    rw [List.take_append, hbs]
  have hwhole : ((bs ++ rest).take (length - 1)).length = length - 1 := by
    rw [List.length_take]
    omega
  have hmore : fittingBytes b.toNat
      (bs.map UInt8.toNat ++ (rest.take (length - 1 - bs.length)).map UInt8.toNat) =
      (bs.map UInt8.toNat ++ (rest.take (length - 1 - bs.length)).map UInt8.toNat).length := by
    rw [← List.map_append, ← hahead, hfitting, List.length_map, hwhole]
  have hall : fittingBytes b.toNat (bs.map UInt8.toNat) = bs.length := by
    rw [fittingBytes_of_append hmore, List.length_map]
  unfold utf8Step
  rw [hn]
  dsimp only
  rw [hbs, hall, List.length_map, if_neg (by omega), if_neg (Nat.lt_irrefl _)]

end Sequence

section Readers

variable {bytes : List UInt8} {text : List Char}

theorem decodeFrom_skip (position : Nat) {skip : Nat} (read : List Char) (h : skip ≤ bytes.length) :
    decodeFrom position skip read bytes =
      decodeFrom (position + skip) 0 read (bytes.drop skip) := by
  induction skip generalizing position bytes with
  | zero => rfl
  | succ skip ih =>
    cases bytes with
    | nil => cases h
    | cons b bs =>
      rw [decodeFrom, ih (position + 1) (Nat.le_of_succ_le_succ h), List.drop_succ_cons]
      congr 1
      omega

/-- The strict reader reads exactly what bytes write. -/
theorem writes_of_decodeFrom {position skip : Nat} {read : List Char}
    (h : decodeFrom position skip read bytes = (text, none)) :
    ∃ ahead, text = read.reverse ++ ahead ∧ Writes (bytes.drop skip) ahead := by
  induction bytes generalizing position skip read with
  | nil =>
    rw [decodeFrom] at h
    exact ⟨[], by rw [List.append_nil, ← (Prod.mk.inj h).1], by rw [List.drop_nil]; exact .nil⟩
  | cons b bs ih =>
    cases skip with
    | succ skip =>
      rw [decodeFrom] at h
      exact ih h
    | zero =>
      rw [decodeFrom] at h
      split at h
      · next c length hstep =>
        obtain ⟨ahead, htext, hahead⟩ := ih h
        exact ⟨c :: ahead, by simp [htext], .cons hstep hahead⟩
      · cases h

theorem decodeLenientFrom_of_writes {skip : Nat} (read : List Char)
    (h : Writes (bytes.drop skip) text) :
    decodeLenientFrom skip read bytes = read.reverse ++ text := by
  induction bytes generalizing skip read text with
  | nil =>
    rw [List.drop_nil] at h
    cases h
    rw [decodeLenientFrom, List.append_nil]
  | cons b bs ih =>
    cases skip with
    | succ skip =>
      rw [decodeLenientFrom]
      exact ih read h
    | zero =>
      cases h with
      | cons hstep hrest =>
        rw [decodeLenientFrom, hstep]
        dsimp only
        rw [ih _ hrest]
        simp

/-- What the strict reader reads of the bytes of a chunk: all of it, or up to a sequence that
lacks its end. The rest of the text is in what is left and in the bytes to come. -/
theorem exists_decodeFrom {rest : List UInt8} (h : Writes (bytes ++ rest) text) (position : Nat)
    (read : List Char) :
    ∃ done left ahead, text = done ++ ahead ∧ Writes (left ++ rest) ahead ∧
      (rest = [] → left = []) ∧
      ((left = [] ∧ decodeFrom position 0 read bytes = (read.reverse ++ done, none)) ∨
        ∃ e, e.cause = .unexpectedEnd ∧ position ≤ e.start ∧
          bytes.drop (e.start - position) = left ∧
          decodeFrom position 0 read bytes = (read.reverse ++ done, some e)) := by
  generalize hwhole : bytes ++ rest = whole at h
  induction h generalizing bytes position read with
  | nil =>
    obtain ⟨rfl, rfl⟩ := List.append_eq_nil_iff.mp hwhole
    exact ⟨[], [], [], rfl, .nil, fun _ => rfl, Or.inl ⟨rfl, by rw [decodeFrom, List.append_nil]⟩⟩
  | @cons b bs c length text hstep hrest ih =>
    cases bytes with
    | nil =>
      obtain rfl : rest = b :: bs := hwhole
      exact ⟨[], [], c :: text, rfl, .cons hstep hrest, fun _ => rfl,
        Or.inl ⟨rfl, by rw [decodeFrom, List.append_nil]⟩⟩
    | cons b' front =>
      rw [List.cons_append] at hwhole
      obtain ⟨rfl, rfl⟩ := List.cons.inj hwhole
      by_cases hlength : length - 1 ≤ front.length
      · have hfront := utf8Step_of_append hstep hlength
        have hbehind : front.drop (length - 1) ++ rest = (front ++ rest).drop (length - 1) :=
          (List.drop_append_of_le_length hlength).symm
        obtain ⟨done, left, ahead, htext, hwrites, hleft, hread⟩ :=
          ih (position + 1 + (length - 1)) (c :: read) hbehind
        have hdecode : decodeFrom position 0 read (b' :: front) =
            decodeFrom (position + 1 + (length - 1)) 0 (c :: read) (front.drop (length - 1)) := by
          rw [decodeFrom, hfront]
          exact decodeFrom_skip _ _ hlength
        refine ⟨c :: done, left, ahead, by rw [htext, List.cons_append], hwrites, hleft, ?_⟩
        rw [hdecode]
        rcases hread with ⟨hnone, hread⟩ | ⟨e, hcause, hstart, hdrop, hread⟩
        · exact Or.inl ⟨hnone, by rw [hread]; simp⟩
        · refine Or.inr ⟨e, hcause, by omega, ?_, by rw [hread]; simp⟩
          rw [← hdrop, List.drop_drop]
          obtain ⟨n, hn⟩ : ∃ n, e.start - position = n + 1 := ⟨e.start - position - 1, by omega⟩
          rw [hn, List.drop_succ_cons]
          congr 1
          omega
      · have hfault := utf8Step_of_short hstep (Nat.lt_of_not_le hlength)
        refine ⟨[], b' :: front, c :: text, rfl, .cons hstep hrest, ?_, Or.inr ?_⟩
        · rintro rfl
          obtain ⟨-, hle, -⟩ := utf8Step_eq_char hstep
          rw [List.append_nil] at hle
          exact absurd hle hlength
        · refine ⟨⟨.unexpectedEnd, b', position, 1 + front.length⟩, rfl, Nat.le_refl _, ?_, ?_⟩
          · simp
          · rw [decodeFrom, hfault, List.append_nil]

end Readers

namespace Utf8Stream

/-- A chunk of a text is taken in; what is left of it waits. -/
theorem exists_feed {s : Utf8Stream} {chunk rest : List UInt8} {text : List Char}
    (h : Writes (s.pending ++ (chunk ++ rest)) text) :
    ∃ done left ahead, s.feed chunk = .ok ⟨s.text ++ done, left⟩ ∧ text = done ++ ahead ∧
      Writes (left ++ rest) ahead ∧ (rest = [] → left = []) := by
  rw [← List.append_assoc] at h
  obtain ⟨done, left, ahead, htext, hwrites, hleft, hread⟩ := exists_decodeFrom h 0 []
  refine ⟨done, left, ahead, ?_, htext, hwrites, hleft⟩
  rcases hread with ⟨rfl, hread⟩ | ⟨e, hcause, -, hdrop, hread⟩
  · rw [feed, hread]
    rfl
  · rw [Nat.sub_zero] at hdrop
    rw [feed, hread]
    simp [hcause, hdrop]

theorem feedAll_of_writes {s : Utf8Stream} {chunks : List (List UInt8)} {text : List Char}
    (h : Writes (s.pending ++ chunks.flatten) text) (hlast : chunks.flatten = [] → s.pending = []) :
    s.feedAll chunks = (s.text ++ text, none) := by
  induction chunks generalizing s text with
  | nil =>
    have hpending : s.pending = [] := hlast rfl
    rw [hpending] at h
    cases h
    rw [feedAll, finish, hpending, List.append_nil]
  | cons chunk chunks ih =>
    obtain ⟨done, left, ahead, hfeed, rfl, hwrites, hleft⟩ := exists_feed h
    rw [feedAll, hfeed]
    dsimp only
    rw [ih hwrites hleft, List.append_assoc]

end Utf8Stream

theorem flatten_chunksOf {size fuel : Nat} (hsize : 0 < size) {bytes : List UInt8}
    (h : bytes.length ≤ fuel) : (chunksOf size fuel bytes).flatten = bytes := by
  induction fuel generalizing bytes with
  | zero => rw [List.length_eq_zero_iff.mp (Nat.le_zero.mp h), chunksOf, List.flatten_nil]
  | succ fuel ih =>
    rw [chunksOf]
    split
    · next hempty => rw [List.isEmpty_iff.mp hempty, List.flatten_nil]
    · next hempty =>
      have hpos : 0 < bytes.length := List.length_pos_iff.mpr fun hnil => hempty (by rw [hnil]; rfl)
      rw [List.flatten_cons, ih (by rw [List.length_drop]; omega), List.take_append_drop]

section Text

variable {bytes : List UInt8} {text : List Char}

theorem writes_of_decodeUtf8 (h : decodeUtf8 bytes = .ok text) : Writes bytes text := by
  unfold decodeUtf8 at h
  split at h
  · next read hread =>
    obtain rfl := Except.ok.inj h
    obtain ⟨ahead, htext, hwrites⟩ := writes_of_decodeFrom hread
    rwa [show read = ahead from htext]
  · cases h

theorem decodeLenient_of_decodeUtf8 (h : decodeUtf8 bytes = .ok text) :
    decodeLenient bytes = text :=
  decodeLenientFrom_of_writes [] (writes_of_decodeUtf8 h)

theorem TraceReading.ofBytes_of_decodeUtf8 (h : decodeUtf8 bytes = .ok text) :
    ofBytes bytes = ofLines 1 (fileLines text) := by
  have hchunks : (chunksOf chunkSize bytes.length bytes).flatten = bytes :=
    flatten_chunksOf (by decide) (Nat.le_refl _)
  have hfeed :
      (Utf8Stream.mk [] []).feedAll (chunksOf chunkSize bytes.length bytes) = (text, none) :=
    Utf8Stream.feedAll_of_writes (by rw [hchunks]; exact writes_of_decodeUtf8 h) fun _ => rfl
  rw [ofBytes, hfeed]

end Text
end ScriptProfiling
