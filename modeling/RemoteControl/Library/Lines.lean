/-
This file develops the reassembly of separated pieces from a stream that
arrives in chunks. A receiver appends each chunk to what it holds, takes out
the pieces that are complete and keeps the open rest. `cut_append` is the law
behind every statement about chunks: cutting a longer text is cutting its first
part and then what that left open together with the rest, so the pieces do not
depend on how the stream was divided.

`drain` is the loop such a receiver runs on its buffer, for any way of handling
a piece; `drain_rule` is its rule of inference: what one handled piece preserves
holds after the loop, which has then handled exactly the complete pieces.
-/

import RemoteControl.Library.Search

namespace Lines

variable {α : Type*} [DecidableEq α] (separator : α)

/-- Cut a text at the separators, the open piece before the text given: the complete pieces and
the piece left open. -/
def cutFrom : List α → List α → List (List α) × List α
  | held, [] => ([], held)
  | held, head :: tail =>
    if head = separator then (held :: (cutFrom [] tail).1, (cutFrom [] tail).2)
    else cutFrom (held ++ [head]) tail

/-- The complete pieces of a text and the piece left open. -/
def cut (text : List α) : List (List α) × List α := cutFrom separator [] text

/-- The text of complete pieces. -/
def join (pieces : List (List α)) : List α := pieces.flatMap (· ++ [separator])

variable {separator}

theorem cutFrom_append (held first second : List α) :
    cutFrom separator held (first ++ second) =
      ((cutFrom separator held first).1 ++
          (cutFrom separator (cutFrom separator held first).2 second).1,
        (cutFrom separator (cutFrom separator held first).2 second).2) := by
  induction first generalizing held with
  | nil => rfl
  | cons head tail inductionHypothesis =>
    rw [List.cons_append, cutFrom, cutFrom]
    split
    · rw [inductionHypothesis]
      rfl
    · exact inductionHypothesis _

/-- A text without separators only extends the open piece. -/
theorem cutFrom_of_notMem {held text : List α} (missing : separator ∉ text) :
    cutFrom separator held text = ([], held ++ text) := by
  induction text generalizing held with
  | nil => rw [cutFrom, List.append_nil]
  | cons head tail inductionHypothesis =>
    rw [List.mem_cons, not_or] at missing
    rw [cutFrom, if_neg fun same => missing.1 same.symm, inductionHypothesis missing.2,
      List.append_assoc, List.singleton_append]

theorem cut_of_notMem {text : List α} (missing : separator ∉ text) :
    cut separator text = ([], text) := cutFrom_of_notMem missing

/-- What was left open is cut again together with what follows. -/
theorem cutFrom_held {held : List α} (missing : separator ∉ held) (text : List α) :
    cutFrom separator held text = cut separator (held ++ text) := by
  rw [cut, cutFrom_append, cutFrom_of_notMem missing]
  rfl

/-- One turn of a loop that finds a separator, takes the piece before it and goes on. -/
theorem cut_append_cons {piece : List α} (missing : separator ∉ piece) (text : List α) :
    cut separator (piece ++ separator :: text) =
      (piece :: (cut separator text).1, (cut separator text).2) := by
  rw [cut, cutFrom_append, cutFrom_of_notMem missing, cutFrom, if_pos rfl]
  rfl

theorem notMem_open {held text : List α} (missing : separator ∉ held) :
    separator ∉ (cutFrom separator held text).2 := by
  induction text generalizing held with
  | nil => exact missing
  | cons head tail inductionHypothesis =>
    rw [cutFrom]
    split
    · exact inductionHypothesis List.not_mem_nil
    · rename_i other
      refine inductionHypothesis ?_
      simpa using ⟨missing, fun same => other same.symm⟩

theorem notMem_cut_open (text : List α) : separator ∉ (cut separator text).2 :=
  notMem_open List.not_mem_nil

/-- Cutting a longer text is cutting the first part and going on with what it left open. -/
theorem cut_append (first second : List α) :
    cut separator (first ++ second) =
      ((cut separator first).1 ++ (cut separator ((cut separator first).2 ++ second)).1,
        (cut separator ((cut separator first).2 ++ second)).2) := by
  rw [cut, cutFrom_append, ← cut, cutFrom_held (notMem_cut_open first)]

/-- Nothing is lost: the pieces and the open rest make up the text. -/
theorem join_cutFrom (held text : List α) :
    join separator (cutFrom separator held text).1 ++ (cutFrom separator held text).2 =
      held ++ text := by
  induction text generalizing held with
  | nil => rw [List.append_nil]; rfl
  | cons head tail inductionHypothesis =>
    rw [cutFrom]
    split
    · rename_i same
      rw [join, List.flatMap_cons, ← join, List.append_assoc, inductionHypothesis, same]
      simp
    · rw [inductionHypothesis]
      simp

theorem join_cut (text : List α) :
    join separator (cut separator text).1 ++ (cut separator text).2 = text :=
  join_cutFrom [] text

omit [DecidableEq α] in
theorem join_append (first second : List (List α)) :
    join separator (first ++ second) = join separator first ++ join separator second :=
  List.flatMap_append

/-- Pieces written one after another are cut into the same pieces. -/
theorem cut_join {pieces : List (List α)} (whole : ∀ piece ∈ pieces, separator ∉ piece)
    (text : List α) :
    cut separator (join separator pieces ++ text) =
      (pieces ++ (cut separator text).1, (cut separator text).2) := by
  induction pieces with
  | nil => rfl
  | cons piece rest inductionHypothesis =>
    have text_eq : join separator (piece :: rest) ++ text =
        piece ++ separator :: (join separator rest ++ text) := by
      rw [join, List.flatMap_cons, ← join]
      simp
    rw [text_eq, cut_append_cons (whole piece List.mem_cons_self),
      inductionHypothesis fun other member => whole other (List.mem_cons_of_mem _ member)]
    rfl

theorem length_open_le (held text : List α) :
    (cutFrom separator held text).2.length ≤ held.length + text.length := by
  have whole : (join separator _ ++ _).length = _ := congrArg List.length (join_cutFrom held text)
  rw [List.length_append, List.length_append] at whole
  omega

theorem length_cut_open_le (text : List α) : (cut separator text).2.length ≤ text.length := by
  have bound : (cut separator text).2.length ≤ [].length + text.length := length_open_le [] text
  rwa [List.length_nil, Nat.zero_add] at bound

/-- A complete piece is shorter than the text it was cut from. -/
theorem length_lt_of_mem_cut {text piece : List α} (member : piece ∈ (cut separator text).1) :
    piece.length < text.length := by
  obtain ⟨before, after, whole⟩ := List.append_of_mem member
  have lengths : (join separator _ ++ _).length = _ := congrArg List.length (join_cut text)
  rw [whole, join_append, join, join, List.flatMap_cons] at lengths
  simp only [List.length_append, List.length_singleton] at lengths
  omega

/-- What a text leaves open when it is cut is the beginning of a piece of every longer text. -/
theorem held_prefix {held : List α} (missing : separator ∉ held) (text : List α) :
    ∃ piece, held <+: piece ∧
      (piece ∈ (cut separator (held ++ text)).1 ∨ piece = (cut separator (held ++ text)).2) := by
  by_cases separated : separator ∈ text
  · obtain ⟨before, after, rfl, plain⟩ := List.eq_append_cons_of_mem separated
    have noSeparator : separator ∉ held ++ before := by
      simpa using ⟨missing, plain⟩
    refine ⟨held ++ before, List.prefix_append _ _, Or.inl ?_⟩
    rw [← List.append_assoc, cut_append_cons noSeparator]
    exact List.mem_cons_self
  · have noSeparator : separator ∉ held ++ text := by
      simpa using ⟨missing, separated⟩
    refine ⟨held ++ text, List.prefix_append _ _, Or.inr ?_⟩
    rw [cut_of_notMem noSeparator]

/-! ### The receiving loop -/

variable {σ : Type*} (separator)

/-- At most the given number of turns of the loop: find a separator, take the piece before it
out of the buffer and handle it, knowing what is left. -/
def drainWithin (handle : σ → List α → List α → σ) : Nat → σ → List α → σ × List α
  | 0, state, buffer => (state, buffer)
  | turns + 1, state, buffer =>
    match ListSearch.find buffer [separator] 0 with
    | none => (state, buffer)
    | some position =>
      drainWithin handle turns
        (handle state (buffer.take position) (buffer.drop (position + 1)))
        (buffer.drop (position + 1))

/-- The loop runs until no separator is left; every turn shortens the buffer. -/
def drain (handle : σ → List α → List α → σ) (state : σ) (buffer : List α) : σ × List α :=
  drainWithin separator handle buffer.length state buffer

variable {separator}

/-- The rule of the loop. The property is about the state, the pieces handled so far and the
buffer that is left. -/
theorem drain_rule {handle : σ → List α → List α → σ} {holds : σ → List (List α) → List α → Prop}
    (turn : ∀ state handled piece rest, separator ∉ piece →
      holds state handled (piece ++ separator :: rest) →
      holds (handle state piece rest) (handled ++ [piece]) rest)
    {state : σ} {handled : List (List α)} {buffer : List α}
    (initially : holds state handled buffer) :
    (drain separator handle state buffer).2 = (cut separator buffer).2 ∧
      holds (drain separator handle state buffer).1 (handled ++ (cut separator buffer).1)
        (cut separator buffer).2 := by
  suffices within : ∀ turns, buffer.length ≤ turns →
      (drainWithin separator handle turns state buffer).2 = (cut separator buffer).2 ∧
        holds (drainWithin separator handle turns state buffer).1
          (handled ++ (cut separator buffer).1) (cut separator buffer).2 from
    within buffer.length (Nat.le_refl _)
  intro turns enough
  induction turns generalizing state handled buffer with
  | zero =>
    obtain rfl := List.length_eq_zero_iff.mp (Nat.le_zero.mp enough)
    refine ⟨rfl, ?_⟩
    rw [cut, cutFrom, List.append_nil]
    exact initially
  | succ turns inductionHypothesis =>
    rw [drainWithin, ListSearch.find_zero]
    cases found : ListSearch.indexOf [separator] buffer with
    | none =>
      rw [cut_of_notMem (ListSearch.indexOf_singleton_eq_none.mp found), List.append_nil]
      exact ⟨rfl, initially⟩
    | some position =>
      obtain ⟨piece, rest, whole, length, missing⟩ :=
        ListSearch.indexOf_singleton_eq_some found
      have shorter : rest.length ≤ turns := by
        rw [whole, List.length_append, List.length_cons] at enough
        omega
      have taken : buffer.take position = piece := by
        rw [whole, ← length, List.take_left]
      have left : buffer.drop (position + 1) = rest := by
        rw [whole, ← length, List.drop_length_add_append]
        rfl
      have next := turn state handled piece rest missing (whole ▸ initially)
      obtain ⟨open_, done⟩ := inductionHypothesis next shorter
      simp only [taken, left]
      rw [whole, cut_append_cons missing]
      rw [List.append_assoc, List.singleton_append] at done
      exact ⟨open_, done⟩

/-- A loop whose handler looks at the pieces only folds it over them. -/
theorem drain_eq_foldl (handle : σ → List α → σ) (state : σ) (buffer : List α) :
    drain separator (fun state piece _ => handle state piece) state buffer =
      ((cut separator buffer).1.foldl handle state, (cut separator buffer).2) := by
  have step (now : σ) (handled : List (List α)) (piece rest : List α) (_ : separator ∉ piece)
      (before : now = handled.foldl handle state) :
      handle now piece = (handled ++ [piece]).foldl handle state := by
    rw [before, List.foldl_append]
    rfl
  obtain ⟨open_, done⟩ := @drain_rule α _ separator σ (fun state piece _ => handle state piece)
    (fun now handled _ => now = handled.foldl handle state) step state [] buffer rfl
  exact Prod.ext done open_

end Lines
