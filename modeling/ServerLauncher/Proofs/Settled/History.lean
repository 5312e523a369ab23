import Mathlib.Data.List.Induction
import Mathlib.Data.List.TakeWhile
import ServerLauncher.Proofs.Settled.Session

/-!
This module contains what the readers of a cell get to know, whatever is done with the cell and in
which order. The value that has been published last is there for everybody, and every reader is told
once of all that has been published since the reader last took notice.
-/

namespace ServerLauncher.Settled

variable {α : Type}

/--
The values that have been published, in their order.
-/
def published (history : List (Operation α)) : List α :=
  (history.takeWhile fun op => !op.isAbandon).filterMap Operation.value?

def latest? (history : List (Operation α)) : Option α :=
  (published history).getLast?

/--
Something has been published after the first operations of a history.
-/
def PublishedSince (history : List (Operation α)) (k : Nat) : Prop :=
  ∃ before value after, history = before ++ .publish value :: after ∧ k ≤ before.length ∧
    .abandon ∉ before

/--
In a history, a reader has last taken notice when so many operations had been done.
-/
inductive LastNotice : List (Operation α) → Nat → Nat → Prop where
  | first : LastNotice [] 0 0
  | reader {history : List (Operation α)} (howned : .abandon ∉ history) :
    LastNotice (history ++ [.reader]) (history.length + 1) (history.length + 1)
  /-- A clone starts from what the other reader has taken notice of. -/
  | clone {history : List (Operation α)} {i k : Nat} (h : LastNotice history i k) :
    LastNotice (history ++ [.clone i]) (history.length + 1) k
  | notice {history : List (Operation α)} {op : Operation α} {i k : Nat}
    (h : LastNotice history i k) (hop : op.TakesNotice i) :
    LastNotice (history ++ [op]) i (history.length + 1)
  | other {history : List (Operation α)} {op : Operation α} {i k : Nat}
    (h : LastNotice history i k) (hop : ¬op.TakesNotice i) : LastNotice (history ++ [op]) i k

variable {history : List (Operation α)} {op : Operation α} {i k : Nat}

theorem LastNotice.le_length (h : LastNotice history i k) :
    i ≤ history.length ∧ k ≤ history.length := by
  induction h with
  | first => exact ⟨Nat.le_refl _, Nat.le_refl _⟩
  | reader => simp
  | clone _ ih => simp; omega
  | notice _ _ ih => simp; omega
  | other _ _ ih => simp; omega

/--
Every way in which a reader can have come to the last notice.
-/
theorem lastNotice_concat_iff :
    LastNotice (history ++ [op]) i k ↔
      (op = .reader ∧ .abandon ∉ history ∧ i = history.length + 1 ∧ k = history.length + 1) ∨
      (∃ j, op = .clone j ∧ LastNotice history j k ∧ i = history.length + 1) ∨
      (op.TakesNotice i ∧ (∃ k', LastNotice history i k') ∧ k = history.length + 1) ∨
      (¬op.TakesNotice i ∧ LastNotice history i k) := by
  constructor
  . intro h
    generalize heq : history ++ [op] = longer at h
    cases h with
    | first => simp at heq
    | reader howned =>
      obtain ⟨rfl, hlast⟩ := List.append_inj' heq rfl
      cases hlast
      exact .inl ⟨rfl, howned, rfl, rfl⟩
    | clone h =>
      obtain ⟨rfl, hlast⟩ := List.append_inj' heq rfl
      cases hlast
      exact .inr (.inl ⟨_, rfl, h, rfl⟩)
    | notice h hop =>
      obtain ⟨rfl, hlast⟩ := List.append_inj' heq rfl
      cases hlast
      exact .inr (.inr (.inl ⟨hop, ⟨_, h⟩, rfl⟩))
    | other h hop =>
      obtain ⟨rfl, hlast⟩ := List.append_inj' heq rfl
      cases hlast
      exact .inr (.inr (.inr ⟨hop, h⟩))
  . rintro (⟨rfl, howned, rfl, rfl⟩ | ⟨j, rfl, h, rfl⟩ | ⟨hop, ⟨k', h⟩, rfl⟩ | ⟨hop, h⟩)
    . exact .reader howned
    . exact .clone h
    . exact .notice h hop
    . exact .other h hop

theorem lastNotice_nil_iff : LastNotice ([] : List (Operation α)) i k ↔ i = 0 ∧ k = 0 := by
  constructor
  . intro h
    have ⟨hi, hk⟩ := h.le_length
    exact ⟨Nat.le_zero.1 hi, Nat.le_zero.1 hk⟩
  . rintro ⟨rfl, rfl⟩
    exact .first

theorem isAbandon_eq_true_iff : op.isAbandon = true ↔ op = .abandon := by
  cases op <;> simp [Operation.isAbandon]

theorem published_concat_of_abandoned (h : .abandon ∈ history) :
    published (history ++ [op]) = published history := by
  unfold published
  rw [List.takeWhile_append, if_neg]
  intro hall
  have hmem := List.takeWhile_eq_self_iff.1 ((List.takeWhile_prefix _).eq_of_length hall) _ h
  simp [Operation.isAbandon] at hmem

theorem published_concat_of_owned (h : .abandon ∉ history) :
    published (history ++ [op]) = published history ++ op.value?.toList := by
  have hall : ∀ op ∈ history, (!op.isAbandon) = true := by
    intro op hop
    rw [Bool.not_eq_true', Bool.eq_false_iff, Ne, isAbandon_eq_true_iff]
    intro heq
    rw [heq] at hop
    exact h hop
  unfold published
  rw [List.takeWhile_append_of_pos hall, List.filterMap_append, List.takeWhile_eq_self_iff.2 hall]
  congr 1
  cases op <;> simp [Operation.isAbandon, Operation.value?]

theorem published_concat_of_value?_eq_none (h : op.value? = none) :
    published (history ++ [op]) = published history := by
  by_cases habandoned : .abandon ∈ history
  . exact published_concat_of_abandoned habandoned
  . rw [published_concat_of_owned habandoned, h]
    exact List.append_nil _

theorem published_isPrefix_concat (history : List (Operation α)) (op : Operation α) :
    published history <+: published (history ++ [op]) := by
  by_cases habandoned : .abandon ∈ history
  . exact (published_concat_of_abandoned habandoned).symm ▸ List.prefix_refl _
  . rw [published_concat_of_owned habandoned]
    exact List.prefix_append _ _

theorem published_take_length_le (history : List (Operation α)) (k : Nat) :
    (published (history.take k)).length ≤ (published history).length := by
  induction history using List.reverseRecOn with
  | nil => simp
  | append_singleton history op ih =>
    by_cases hk : k ≤ history.length
    . rw [List.take_append_of_le_length hk]
      exact Nat.le_trans ih (published_isPrefix_concat history op).length_le
    . have hall : (history ++ [op]).take k = history ++ [op] := by
        apply List.take_of_length_le
        rw [List.length_append, List.length_singleton]
        omega
      exact Nat.le_of_eq (congrArg (fun history => (published history).length) hall)

theorem publishedSince_concat_iff (hk : k ≤ history.length) :
    PublishedSince (history ++ [op]) k ↔
      PublishedSince history k ∨ (.abandon ∉ history ∧ ∃ value, op = .publish value) := by
  constructor
  . rintro ⟨before, value, after, heq, hle, howned⟩
    rcases List.eq_nil_or_concat' after with rfl | ⟨after, last, rfl⟩
    . obtain ⟨rfl, hlast⟩ := List.append_inj' heq rfl
      exact .inr ⟨howned, value, (List.cons.inj hlast).1⟩
    . rw [← List.cons_append, ← List.append_assoc] at heq
      obtain ⟨rfl, _⟩ := List.append_inj' heq rfl
      exact .inl ⟨before, value, after, rfl, hle, howned⟩
  . rintro (⟨before, value, after, rfl, hle, howned⟩ | ⟨howned, value, rfl⟩)
    . exact ⟨before, value, after ++ [op], by simp, hle, howned⟩
    . exact ⟨history, value, [], rfl, hk, howned⟩

/--
Whether something has been published can be told from the number of publications.
-/
theorem publishedSince_iff (hk : k ≤ history.length) :
    PublishedSince history k ↔ (published history).length ≠ (published (history.take k)).length := by
  induction history using List.reverseRecOn with
  | nil =>
    rw [List.take_nil]
    refine iff_of_false ?_ (fun h => h rfl)
    rintro ⟨before, value, after, heq, _⟩
    simp at heq
  | append_singleton history op ih =>
    rw [List.length_append, List.length_singleton] at hk
    rcases Nat.lt_or_ge history.length k with hlt | hle
    . have hall : (history ++ [op]).take k = history ++ [op] := by
        apply List.take_of_length_le
        rw [List.length_append, List.length_singleton]
        omega
      rw [hall]
      refine iff_of_false ?_ (fun h => h rfl)
      rintro ⟨before, value, after, heq, hlong, _⟩
      have hlength := congrArg List.length heq
      rw [List.length_append, List.length_append, List.length_singleton, List.length_cons] at hlength
      omega
    . rw [publishedSince_concat_iff hle, ih hle, List.take_append_of_le_length hle]
      have hold := published_take_length_le history k
      by_cases hnew : .abandon ∉ history ∧ ∃ value, op = .publish value
      . obtain ⟨howned, value, rfl⟩ := hnew
        refine iff_of_true (.inr ⟨howned, value, rfl⟩) ?_
        rw [published_concat_of_owned howned]
        simp [Operation.value?]
        omega
      . rw [or_iff_left hnew]
        have hsame : published (history ++ [op]) = published history := by
          by_cases habandoned : .abandon ∈ history
          . exact published_concat_of_abandoned habandoned
          . apply published_concat_of_value?_eq_none
            cases op with
            | publish value => exact absurd ⟨habandoned, value, rfl⟩ hnew
            | _ => rfl
        rw [hsame]

/--
What a session knows of its history.
-/
structure Tracks (history : List (Operation α)) (s : Session (Settled α) Reader) : Prop where
  length : s.length = history.length
  isOwned_iff : s.isOwned = true ↔ .abandon ∉ history
  owned : s.cell.owned = s.isOwned
  current : s.cell.current = latest? history
  publications : s.cell.publications = (published history).length
  /-- A reader has seen what had been published at the last notice. -/
  reader_iff : ∀ i reader, s.readers.get? i = some reader ↔
    ∃ k, LastNotice history i k ∧ reader.seen = (published (history.take k)).length

variable {s : Session (Settled α) Reader}

theorem tracks_start : Tracks ([] : List (Operation α)) (Session.start interface) where
  length := rfl
  isOwned_iff := by simp [Session.start]
  owned := rfl
  current := rfl
  publications := rfl
  reader_iff i reader := by
    simp only [lastNotice_nil_iff, List.take_nil]
    show (if 0 = i then some Reader.first else none) = some reader ↔ _
    split
    . next h =>
      cases reader
      simp [← h, Reader.first, published, eq_comm]
    . next h => simp [Ne.symm h]

theorem latest?_concat_of_value?_eq_none (h : op.value? = none) :
    latest? (history ++ [op]) = latest? history := by
  unfold latest?
  rw [published_concat_of_value?_eq_none h]

/--
How a reader comes to be there after an operation, with what it has seen.
-/
def Follows (history : List (Operation α)) (op : Operation α) (readers : Keyed Nat Reader) (i : Nat)
    (reader : Reader) : Prop :=
  (op = .reader ∧ .abandon ∉ history ∧ i = history.length + 1 ∧
    reader.seen = (published (history ++ [op])).length) ∨
  (∃ j, op = .clone j ∧ readers.get? j = some reader ∧ i = history.length + 1) ∨
  (op.TakesNotice i ∧ (∃ old, readers.get? i = some old) ∧
    reader.seen = (published (history ++ [op])).length) ∨
  (¬op.TakesNotice i ∧ readers.get? i = some reader)

/--
What has to be shown of an operation: what becomes of the cell, and which readers are there with what
they have seen.
-/
theorem Tracks.concat (h : Tracks history s) {cell : Settled α} {readers : Keyed Nat Reader}
    {isOwned : Bool} (howned : isOwned = true ↔ .abandon ∉ history ++ [op])
    (hcell : cell.owned = isOwned) (hcurrent : cell.current = latest? (history ++ [op]))
    (hpublications : cell.publications = (published (history ++ [op])).length)
    (hreaders : ∀ i reader, readers.get? i = some reader ↔ Follows history op s.readers i reader) :
    Tracks (history ++ [op]) ⟨cell, readers, isOwned, s.length + 1⟩ where
  length := by rw [h.length, List.length_append, List.length_singleton]
  isOwned_iff := howned
  owned := hcell
  current := hcurrent
  publications := hpublications
  reader_iff i reader := by
    have htake : ∀ {j k}, LastNotice history j k → (history ++ [op]).take k = history.take k :=
      fun hold => List.take_append_of_le_length hold.le_length.2
    have hall : (history ++ [op]).take (history.length + 1) = history ++ [op] := by
      apply List.take_of_length_le
      simp
    rw [hreaders]
    simp only [Follows, h.reader_iff, lastNotice_concat_iff]
    constructor
    . rintro (⟨hop, howned, hi, hseen⟩ | ⟨j, hop, ⟨k, hk, hseen⟩, hi⟩ |
        ⟨hop, ⟨old, k, hk, _⟩, hseen⟩ | ⟨hop, k, hk, hseen⟩)
      . exact ⟨_, .inl ⟨hop, howned, hi, rfl⟩, by rw [hall]; exact hseen⟩
      . exact ⟨k, .inr (.inl ⟨j, hop, hk, hi⟩), by rw [htake hk]; exact hseen⟩
      . exact ⟨_, .inr (.inr (.inl ⟨hop, ⟨k, hk⟩, rfl⟩)), by rw [hall]; exact hseen⟩
      . exact ⟨k, .inr (.inr (.inr ⟨hop, hk⟩)), by rw [htake hk]; exact hseen⟩
    . rintro ⟨k, ⟨hop, howned, hi, rfl⟩ | ⟨j, hop, hk, hi⟩ | ⟨hop, ⟨k', hk⟩, rfl⟩ | ⟨hop, hk⟩, hseen⟩
      . rw [hall] at hseen
        exact .inl ⟨hop, howned, hi, hseen⟩
      . rw [htake hk] at hseen
        exact .inr (.inl ⟨j, hop, ⟨k, hk, hseen⟩, hi⟩)
      . rw [hall] at hseen
        exact .inr (.inr (.inl ⟨hop, ⟨⟨_⟩, k', hk, rfl⟩, hseen⟩))
      . rw [htake hk] at hseen
        exact .inr (.inr (.inr ⟨hop, k, hk, hseen⟩))

/--
An operation that changes nothing of the cell is a matter of the readers.
-/
theorem Tracks.concat_readers (h : Tracks history s) {readers : Keyed Nat Reader}
    (hvalue : op.value? = none) (hop : op ≠ .abandon)
    (hreaders : ∀ i reader, readers.get? i = some reader ↔ Follows history op s.readers i reader) :
    Tracks (history ++ [op]) { s with readers, length := s.length + 1 } := by
  apply h.concat _ h.owned _ _ hreaders
  . rw [h.isOwned_iff, List.mem_append, List.mem_singleton, or_iff_left hop.symm]
  . rw [h.current, latest?_concat_of_value?_eq_none hvalue]
  . rw [h.publications, published_concat_of_value?_eq_none hvalue]

theorem Tracks.get?_new (h : Tracks history s) : s.readers.get? (history.length + 1) = none := by
  rw [Option.eq_none_iff_forall_ne_some]
  intro reader hget
  have ⟨k, hk, _⟩ := (h.reader_iff _ _).1 hget
  have hle := hk.le_length.1
  omega

theorem Tracks.abandoned (h : Tracks history s) (howned : s.isOwned = false) : .abandon ∈ history := by
  rw [← Bool.not_eq_true, h.isOwned_iff, not_not] at howned
  exact howned

theorem seen_pollChange (cell : Settled α) (reader : Reader) :
    (cell.pollChange reader).2.seen = cell.publications := by
  unfold pollChange
  split
  . cases cell.current <;> rfl
  . next heq =>
    rw [Decidable.not_not] at heq
    split <;> exact heq.symm

/--
An operation that nobody can do, or that only looks, leaves what the readers have seen.
-/
theorem Tracks.idle (h : Tracks history s) (howner : op.NeedsOwner → s.isOwned = false)
    (hclone : ∀ i, op = .clone i → s.readers.get? i = none)
    (hnotice : ∀ i, op.TakesNotice i → s.readers.get? i = none) :
    Tracks (history ++ [op]) { s with length := s.length + 1 } := by
  have hpublished : published (history ++ [op]) = published history := by
    cases hvalue : op.value? with
    | none => exact published_concat_of_value?_eq_none hvalue
    | some value =>
      cases op with
      | publish value =>
        exact published_concat_of_abandoned (h.abandoned (howner (.inr (.inr ⟨_, rfl⟩))))
      | _ => cases hvalue
  apply h.concat
  . rw [h.isOwned_iff, List.mem_append, List.mem_singleton, or_iff_left_of_imp]
    intro heq
    exact h.abandoned (howner (.inl heq.symm))
  . exact h.owned
  . rw [h.current]
    unfold latest?
    rw [hpublished]
  . rw [hpublished]
    exact h.publications
  . intro i reader
    constructor
    . intro hget
      refine .inr (.inr (.inr ⟨?_, hget⟩))
      intro hop
      rw [hnotice i hop] at hget
      cases hget
    . rintro (⟨hop, howned, _⟩ | ⟨j, hop, hget, _⟩ | ⟨hop, ⟨old, hget⟩, _⟩ | ⟨_, hget⟩)
      . exact absurd (h.abandoned (howner (.inr (.inl hop)))) howned
      . rw [hclone j hop] at hget
        cases hget
      . rw [hnotice i hop] at hget
        cases hget
      . exact hget

theorem Tracks.publish (h : Tracks history s) (howned : s.isOwned = true) (value : α) :
    Tracks (history ++ [.publish value])
      { s with cell := s.cell.publish value, length := s.length + 1 } := by
  have hpublished : published (history ++ [.publish value]) = published history ++ [value] :=
    published_concat_of_owned (h.isOwned_iff.1 howned)
  apply h.concat
  . rw [h.isOwned_iff]
    simp
  . exact h.owned
  . unfold latest?
    rw [hpublished]
    exact List.getLast?_concat.symm
  . rw [hpublished]
    show s.cell.publications + 1 = _
    rw [h.publications]
    simp
  . intro i reader
    simp [Follows, Operation.TakesNotice]

theorem Tracks.abandon (h : Tracks history s) :
    Tracks (history ++ [.abandon])
      { s with cell := s.cell.abandon, isOwned := false, length := s.length + 1 } := by
  have hpublished : published (history ++ [.abandon]) = published history :=
    published_concat_of_value?_eq_none rfl
  apply h.concat
  . simp
  . rfl
  . rw [latest?_concat_of_value?_eq_none rfl]
    exact h.current
  . rw [hpublished]
    exact h.publications
  . intro i reader
    simp [Follows, Operation.TakesNotice]

theorem Tracks.join (h : Tracks history s) {reader : Reader}
    (hop : (op = .reader ∧ s.isOwned = true ∧ reader = s.cell.reader) ∨
      ∃ i, op = .clone i ∧ s.readers.get? i = some reader) :
    Tracks (history ++ [op])
      { s with readers := s.readers.put (s.length + 1) reader, length := s.length + 1 } := by
  have hplain : op.value? = none ∧ op ≠ .abandon ∧ ∀ i, ¬op.TakesNotice i := by
    rcases hop with ⟨rfl, _⟩ | ⟨i, rfl, _⟩ <;> simp [Operation.value?, Operation.TakesNotice]
  obtain ⟨hvalue, hne, hnotice⟩ := hplain
  have hpublished : published (history ++ [op]) = published history :=
    published_concat_of_value?_eq_none hvalue
  apply h.concat_readers hvalue hne
  intro i other
  unfold Follows
  rw [h.length, hpublished]
  by_cases hi : i = history.length + 1
  . rw [hi, Keyed.get?_put_self, h.get?_new, Option.some_inj]
    constructor
    . rintro rfl
      rcases hop with ⟨hreader, howned, rfl⟩ | ⟨j, hclone, hget⟩
      . exact .inl ⟨hreader, h.isOwned_iff.1 howned, rfl, h.publications⟩
      . exact .inr (.inl ⟨j, hclone, hget, rfl⟩)
    . rintro (⟨hreader, _, _, hseen⟩ | ⟨j, hclone, hget, _⟩ | ⟨_, ⟨_, hget⟩, _⟩ | ⟨_, hget⟩)
      . rcases hop with ⟨_, _, rfl⟩ | ⟨j, hclone, _⟩
        . cases other
          cases hseen
          exact congrArg Reader.mk h.publications
        . rw [hreader] at hclone
          cases hclone
      . rcases hop with ⟨hreader, _⟩ | ⟨j', hclone', hget'⟩
        . rw [hreader] at hclone
          cases hclone
        . rw [hclone'] at hclone
          cases hclone
          rw [hget'] at hget
          exact Option.some.inj hget
      . cases hget
      . cases hget
  . rw [Keyed.get?_put_of_ne hi]
    constructor
    . intro hget
      exact .inr (.inr (.inr ⟨hnotice i, hget⟩))
    . rintro (⟨_, _, hi', _⟩ | ⟨_, _, _, hi'⟩ | ⟨hop, _⟩ | ⟨_, hget⟩)
      . exact absurd hi' hi
      . exact absurd hi' hi
      . exact absurd hop (hnotice i)
      . exact hget

theorem Tracks.notice (h : Tracks history s) {old reader : Reader} (hget : s.readers.get? i = some old)
    (hop : op.TakesNotice i) (hreader : reader.seen = s.cell.publications) :
    Tracks (history ++ [op])
      { s with readers := s.readers.put i reader, length := s.length + 1 } := by
  have hplain : op.value? = none ∧ op ≠ .abandon ∧ op ≠ .reader ∧ ∀ j, op ≠ .clone j := by
    rcases hop with rfl | rfl <;> simp [Operation.value?]
  obtain ⟨hvalue, hne, hnew, hclone⟩ := hplain
  have hother : ∀ j, op.TakesNotice j → j = i := by
    intro j hj
    rcases hop with rfl | rfl <;> simpa [Operation.TakesNotice, eq_comm] using hj
  have hpublished : published (history ++ [op]) = published history :=
    published_concat_of_value?_eq_none hvalue
  apply h.concat_readers hvalue hne
  intro j other
  unfold Follows
  rw [hpublished, ← h.publications]
  by_cases hj : j = i
  . rw [hj, Keyed.get?_put_self, Option.some_inj]
    constructor
    . rintro rfl
      exact .inr (.inr (.inl ⟨hop, ⟨old, hget⟩, hreader⟩))
    . rintro (⟨hop', _⟩ | ⟨_, hop', _⟩ | ⟨_, _, hseen⟩ | ⟨hnot, _⟩)
      . exact absurd hop' hnew
      . exact absurd hop' (hclone _)
      . cases reader
        cases other
        exact congrArg Reader.mk (hreader.trans hseen.symm)
      . exact absurd hop hnot
  . rw [Keyed.get?_put_of_ne hj]
    constructor
    . intro hget'
      exact .inr (.inr (.inr ⟨fun hop' => hj (hother j hop'), hget'⟩))
    . rintro (⟨hop', _⟩ | ⟨_, hop', _⟩ | ⟨hop', _⟩ | ⟨_, hget'⟩)
      . exact absurd hop' hnew
      . exact absurd hop' (hclone _)
      . exact absurd (hother j hop') hj
      . exact hget'

theorem tracks_step (h : Tracks history s) (op : Operation α) :
    Tracks (history ++ [op]) (s.step interface op) := by
  have hpassage := passage_step interface s op
  generalize s.step interface op = s' at hpassage
  cases hpassage with
  | idle howner hclone hnotice => exact h.idle howner hclone hnotice
  | publish hop howned =>
    rw [hop]
    exact h.publish howned _
  | abandon hop =>
    rw [hop]
    exact h.abandon
  | join hop => exact h.join hop
  | notice hget hop =>
    rcases hop with ⟨rfl, rfl⟩ | ⟨rfl, rfl⟩
    . exact h.notice hget (.inl rfl) (seen_pollChange s.cell _)
    . exact h.notice hget (.inr rfl) rfl

theorem tracks_run (history : List (Operation α)) : Tracks history (Session.run interface history) := by
  induction history using List.reverseRecOn with
  | nil => exact tracks_start
  | append_singleton history op ih =>
    rw [Session.run_concat]
    exact tracks_step ih op

/--
What a reader is told who asks for a value. That depends on whether there is news, and on whether the
owner is gone.
-/
inductive Poll.Tells (news gone : Prop) (latest : Option α) : Poll α → Prop where
  | value {value : α} (hnews : news) (hlatest : latest = some value) :
    Tells news gone latest (.value value)
  | waiting (hnews : ¬news) (howned : ¬gone) : Tells news gone latest .waiting
  | closed (hnews : ¬news) (hgone : gone) : Tells news gone latest .closed

theorem Poll.Tells.eq_iff {news gone : Prop} {latest : Option α} {p q : Poll α}
    (h : Poll.Tells news gone latest p) : p = q ↔ Poll.Tells news gone latest q := by
  constructor
  . rintro rfl
    exact h
  . intro h'
    cases h with
    | value hnews hlatest =>
      cases h' with
      | value _ hlatest' =>
        rw [hlatest] at hlatest'
        rw [Option.some.inj hlatest']
      | waiting hnone => exact absurd hnews hnone
      | closed hnone => exact absurd hnews hnone
    | waiting hnone howned =>
      cases h' with
      | value hnews => exact absurd hnews hnone
      | waiting => rfl
      | closed _ hgone => exact absurd hgone howned
    | closed hnone hgone =>
      cases h' with
      | value hnews => exact absurd hnews hnone
      | waiting _ howned => exact absurd hgone howned
      | closed => rfl

/--
What the answers promise to the readers of a cell, after any history.
-/
structure Informs (answer : List (Operation α) → Operation α → Answer α) : Prop where
  /-- The value that has been published last is there for everybody, with or without an owner. -/
  current : ∀ history i k, LastNotice history i k →
    answer history (.current i) = .found (latest? history)
  isSettled : ∀ history i k, LastNotice history i k →
    answer history (.isSettled i) = .settled (latest? history).isSome
  wait : ∀ history i k poll, LastNotice history i k →
    (answer history (.wait i) = .polled poll ↔
      poll.Tells (published history ≠ []) (.abandon ∈ history) (latest? history))
  /-- All that has been published since the last notice is told at once. -/
  changed : ∀ history i k poll, LastNotice history i k →
    (answer history (.changed i) = .polled poll ↔
      poll.Tells (PublishedSince history k) (.abandon ∈ history) (latest? history))
  /-- Neither looking at a cell nor what another reader does makes a difference. -/
  unaffected : ∀ history op use i k, LastNotice history i k → ¬op.Concerns i → use.IsUseOf i →
    answer (history ++ [op]) use = answer history use
  /-- Readers come from the owner, or from other readers. -/
  reader : ∀ history, .abandon ∉ history → answer history .reader = .named (history.length + 1)
  clone : ∀ history i k, LastNotice history i k →
    answer history (.clone i) = .named (history.length + 1)
  owner : ∀ history, .abandon ∉ history →
    answer history .lookUp = .found (latest? history) ∧
      ∀ value, answer history (.publish value) = .found (some value)

theorem latest?_eq_none_iff : latest? history = none ↔ published history = [] := by
  unfold latest?
  exact List.getLast?_eq_none_iff

theorem isSome_latest?_of_publishedSince (hk : k ≤ history.length) (h : PublishedSince history k) :
    (latest? history).isSome := by
  rw [Option.isSome_iff_ne_none, Ne, latest?_eq_none_iff]
  intro hnone
  have hlt := (publishedSince_iff hk).1 h
  have hle := published_take_length_le history k
  rw [hnone] at hlt hle
  exact hlt (Nat.le_zero.1 hle).symm

namespace Tracks

theorem asReader (h : Tracks history s) (hi : LastNotice history i k)
    (use : Reader → Answer α × Session (Settled α) Reader) :
    s.asReader i use = use ⟨(published (history.take k)).length⟩ := by
  unfold Session.asReader
  rw [(h.reader_iff i ⟨(published (history.take k)).length⟩).2 ⟨k, hi, rfl⟩]

theorem asOwner (h : Tracks history s) (howned : .abandon ∉ history)
    (use : Answer α × Session (Settled α) Reader) : s.asOwner use = use := by
  unfold Session.asOwner
  rw [if_pos (h.isOwned_iff.2 howned)]

theorem owned_iff (h : Tracks history s) : s.cell.owned = true ↔ .abandon ∉ history := by
  rw [h.owned]
  exact h.isOwned_iff

theorem tells_poll (h : Tracks history s) :
    s.cell.poll.Tells (published history ≠ []) (.abandon ∈ history) (latest? history) := by
  unfold poll
  rw [h.current]
  cases hlatest : latest? history with
  | some value =>
    refine .value ?_ rfl
    rw [Ne, ← latest?_eq_none_iff, hlatest]
    simp
  | none =>
    have hnone := not_not_intro (latest?_eq_none_iff.1 hlatest)
    by_cases habandoned : .abandon ∈ history
    . rw [if_neg]
      . exact .closed hnone habandoned
      . rw [h.owned_iff]
        exact not_not_intro habandoned
    . rw [if_pos (h.owned_iff.2 habandoned)]
      exact .waiting hnone habandoned

theorem tells_pollChange (h : Tracks history s) (hk : k ≤ history.length) :
    (s.cell.pollChange ⟨(published (history.take k)).length⟩).1.Tells (PublishedSince history k)
      (.abandon ∈ history) (latest? history) := by
  unfold pollChange
  rw [h.publications]
  by_cases hsince : PublishedSince history k
  . have ⟨value, hvalue⟩ := Option.isSome_iff_exists.1 (isSome_latest?_of_publishedSince hk hsince)
    rw [if_pos ((publishedSince_iff hk).1 hsince), h.current, hvalue]
    exact .value hsince rfl
  . rw [if_neg (fun hne => hsince ((publishedSince_iff hk).2 hne))]
    by_cases habandoned : .abandon ∈ history
    . rw [if_neg]
      . exact .closed hsince habandoned
      . rw [h.owned_iff]
        exact not_not_intro habandoned
    . rw [if_pos (h.owned_iff.2 habandoned)]
      exact .waiting hsince habandoned

end Tracks

theorem informs_interface : Informs (answer (interface (α := α))) where
  current history i k hi := by
    have h := tracks_run history
    show ((Session.run interface history).asReader i _).1 = _
    rw [h.asReader hi]
    exact congrArg Answer.found h.current
  isSettled history i k hi := by
    have h := tracks_run history
    show ((Session.run interface history).asReader i _).1 = _
    rw [h.asReader hi]
    exact congrArg (Answer.settled ∘ Option.isSome) h.current
  wait history i k poll hi := by
    have h := tracks_run history
    show ((Session.run interface history).asReader i _).1 = _ ↔ _
    rw [h.asReader hi, Answer.polled.injEq]
    exact h.tells_poll.eq_iff
  changed history i k poll hi := by
    have h := tracks_run history
    show ((Session.run interface history).asReader i _).1 = _ ↔ _
    rw [h.asReader hi, Answer.polled.injEq]
    exact (h.tells_pollChange hi.le_length.2).eq_iff
  unaffected history op use i k hi hop huse := by
    unfold answer
    rw [Session.run_concat]
    have hnew : i ≠ (Session.run interface history).length + 1 := by
      rw [(tracks_run history).length]
      have := hi.le_length.1
      omega
    obtain ⟨hcell, hreader⟩ := step_of_not_concerns interface hnew hop
    exact perform_congr hcell hreader huse
  reader history howned := by
    have h := tracks_run history
    show ((Session.run interface history).asOwner _).1 = _
    rw [h.asOwner howned]
    exact congrArg (Answer.named <| · + 1) h.length
  clone history i k hi := by
    have h := tracks_run history
    show ((Session.run interface history).asReader i _).1 = _
    rw [h.asReader hi]
    exact congrArg (Answer.named <| · + 1) h.length
  owner history howned := by
    have h := tracks_run history
    constructor
    . show ((Session.run interface history).asOwner _).1 = _
      rw [h.asOwner howned]
      exact congrArg Answer.found h.current
    . intro value
      show ((Session.run interface history).asOwner _).1 = _
      rw [h.asOwner howned]

end ServerLauncher.Settled
