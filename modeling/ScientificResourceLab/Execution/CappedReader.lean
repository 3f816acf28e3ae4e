import ScientificResourceLab.Python.Text

/-!
# The capped reader

`_CappedReader` of `srl.execution.sandbox`: one pipe of a child is drained
into a buffer until the end of the stream or the cap.  The pipe is the list of
the answers that its `read` still gives; past them it is at its end.
-/

namespace ScientificResourceLab.Execution

open Python

/-! ## The reader -/

/-- What `read` of a pipe answers. -/
inductive PipeAnswer where
  | chunk (data : Bytes)
  /-- It raises `OSError` or `ValueError`. -/
  | raises
  deriving DecidableEq, Repr

/-- `_CappedReader`. -/
structure CappedReader where
  stream : List PipeAnswer
  cap : Int
  buf : Bytes
  truncated : Bool
  deriving DecidableEq, Repr

/-- `_CappedReader.__init__`. -/
def CappedReader.init (stream : List PipeAnswer) (capBytes : Int) :
    CappedReader where
  stream := stream
  cap := capBytes
  buf := []
  truncated := false

/--
`chunk[:remaining]`; a negative bound would count from the end.
-/
def sliceTo (data : Bytes) (bound : Int) : Bytes :=
  if 0 ≤ bound then data.take bound.toNat
  else data.take (data.length - (-bound).toNat)

/--
The loop of `_CappedReader.run`, on the answers that are left, the buffer and
the flag.
-/
def drain (cap : Int) :
    List PipeAnswer → Bytes → Bool → List PipeAnswer × Bytes × Bool
  | [], buf, truncated => ([], buf, truncated)
  | .raises :: rest, buf, truncated => (rest, buf, truncated)
  | .chunk chunk :: rest, buf, truncated =>
      if chunk = [] then (rest, buf, truncated)
      else
        let remaining := cap - buf.length
        if remaining ≤ 0 then (rest, buf, true)
        else if remaining < chunk.length then
          (rest, buf ++ sliceTo chunk remaining, true)
        else drain cap rest (buf ++ chunk) truncated

/-- `_CappedReader.run`. -/
def CappedReader.run (reader : CappedReader) : CappedReader :=
  let drained := drain reader.cap reader.stream reader.buf reader.truncated
  { reader with
    stream := drained.1
    buf := drained.2.1
    truncated := drained.2.2 }

/-- The property `_CappedReader.bytes`. -/
def CappedReader.bytes (reader : CappedReader) : Bytes :=
  reader.buf

/-! ## What a drained pipe leaves -/

/-- The bytes that a pipe delivers before it ends or fails. -/
def delivered : List PipeAnswer → Bytes
  | .chunk (first :: rest) :: others => first :: rest ++ delivered others
  | _ => []

@[simp]
theorem delivered_chunks {chunks : List Bytes}
    (nonempty : ∀ chunk ∈ chunks, chunk ≠ []) :
    delivered (chunks.map .chunk) = chunks.flatten := by
  induction chunks with
  | nil => rfl
  | cons chunk rest inductionHypothesis =>
      have others := inductionHypothesis fun other member =>
        nonempty other (List.mem_cons_of_mem chunk member)
      cases chunk with
      | nil => exact absurd rfl (nonempty [] List.mem_cons_self)
      | cons first bytes =>
          rw [List.map_cons, delivered, others, List.flatten_cons]

/-- A chunk that exceeds what remains of the cap fills the buffer to it. -/
theorem append_sliceTo {buf chunk : Bytes} {cap : Int} {others : Bytes}
    (remains : 0 < cap - buf.length)
    (exceeds : cap - buf.length < chunk.length) :
    buf ++ sliceTo chunk (cap - buf.length) =
      (buf ++ (chunk ++ others)).take cap.toNat := by
  have count : (cap - buf.length).toNat = cap.toNat - buf.length := by
    omega
  have full : buf.take cap.toNat = buf :=
    List.take_of_length_le (by omega)
  have inChunk : cap.toNat - buf.length ≤ chunk.length := by
    omega
  rw [sliceTo, if_pos remains.le, count, List.take_append, full,
    List.take_append_of_le_length inChunk]

/--
From a buffer within the cap, the loop ends with the first `cap` of the bytes
held and delivered, and sets the flag exactly when there are more.
-/
theorem drain_eq
    {cap : Int} (stream : List PipeAnswer) {buf : Bytes}
    (within : buf.length ≤ cap) (truncated : Bool) :
    (drain cap stream buf truncated).2.1 =
        (buf ++ delivered stream).take cap.toNat ∧
      (drain cap stream buf truncated).2.2 =
        (truncated ||
          decide (cap < (buf ++ delivered stream).length)) := by
  have ended :
      buf = (buf ++ []).take cap.toNat ∧
        truncated = (truncated || decide (cap < (buf ++ []).length)) := by
    rw [List.append_nil, List.take_of_length_le (by omega),
      decide_eq_false (by omega), Bool.or_false]
    exact ⟨rfl, rfl⟩
  induction stream generalizing buf with
  | nil => exact ended
  | cons answer rest inductionHypothesis =>
      cases answer with
      | raises => exact ended
      | chunk chunk =>
          cases chunk with
          | nil => exact ended
          | cons first bytes =>
              rw [drain, if_neg (List.cons_ne_nil first bytes), delivered]
              by_cases reached : cap - buf.length ≤ 0
              · have atCap : buf.length = cap.toNat := by omega
                rw [if_pos reached, List.take_append_of_le_length atCap.ge,
                  List.take_of_length_le atCap.le,
                  decide_eq_true (by simp; omega), Bool.or_true]
                exact ⟨rfl, rfl⟩
              · rw [if_neg reached]
                by_cases exceeds :
                    cap - buf.length < (first :: bytes).length
                · rw [if_pos exceeds,
                    decide_eq_true (by simp at exceeds ⊢; omega),
                    Bool.or_true]
                  exact ⟨append_sliceTo (not_le.mp reached) exceeds, rfl⟩
                · rw [if_neg exceeds, ← List.append_assoc]
                  have room :
                      ((buf ++ first :: bytes).length : Int) ≤ cap := by
                    simp at exceeds ⊢
                    omega
                  refine inductionHypothesis room ?_
                  rw [List.append_nil, List.take_of_length_le (by omega),
                    decide_eq_false (by omega), Bool.or_false]
                  exact ⟨rfl, rfl⟩

theorem run_init (stream : List PipeAnswer) {cap : Int}
    (nonnegative : 0 ≤ cap) :
    (CappedReader.init stream cap).run.bytes =
        (delivered stream).take cap.toNat ∧
      ((CappedReader.init stream cap).run.truncated = true ↔
        cap < (delivered stream).length) := by
  have empty : (([] : Bytes).length : Int) ≤ cap := nonnegative
  obtain ⟨held, flag⟩ := drain_eq stream empty false
  constructor
  · exact held
  · change (drain cap stream [] false).2.2 = true ↔ _
    rw [flag, Bool.false_or, decide_eq_true_iff, List.nil_append]

/--
However a stream is cut into chunks, the reader captures its first `cap`
bytes, and is truncated exactly when the stream is longer.
-/
theorem run_chunking
    (chunks : List Bytes) (nonempty : ∀ chunk ∈ chunks, chunk ≠ [])
    (cap : Int) (nonnegative : 0 ≤ cap) :
    (CappedReader.init (chunks.map .chunk) cap).run.bytes =
        chunks.flatten.take (min chunks.flatten.length cap.toNat) ∧
      ((CappedReader.init (chunks.map .chunk) cap).run.truncated = true ↔
        cap < chunks.flatten.length) := by
  have captured := run_init (chunks.map .chunk) nonnegative
  rw [delivered_chunks nonempty] at captured
  rwa [min_comm, ← List.take_eq_take_min]

/-- A cap crossed inside the second of three chunks. -/
theorem run_chunking_crossed :
    (CappedReader.init [.chunk [1, 2], .chunk [3, 4], .chunk [5]] 3).run.bytes
        = [1, 2, 3] ∧
      (CappedReader.init [.chunk [1, 2], .chunk [3, 4], .chunk [5]]
        3).run.truncated = true := by
  have captured := run_chunking [[1, 2], [3, 4], [5]] (by decide) 3
    (by decide)
  exact ⟨captured.1, captured.2.mpr (by decide)⟩

end ScientificResourceLab.Execution
