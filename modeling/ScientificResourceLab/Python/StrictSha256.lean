import ScientificResourceLab.Python.Sha256

/-!
# SHA-256, evaluated word by word

The digest with its words evaluated as soon as they are there.  A word that is
kept as a sum of rotations is evaluated anew wherever it is used; `forced`
matches on it first.  `sha256_eq_strict` turns a closed digest into one that
the kernel evaluates quickly.
-/

namespace ScientificResourceLab.Python

namespace Sha256

/-! ## Evaluation -/

/-- Evaluate a word before it is passed on. -/
def forced {α : Type} (word : Nat) (next : Nat → α) : α :=
  match word with
  | 0 => next 0
  | smaller + 1 => next (smaller + 1)

@[simp]
theorem forced_eq {α : Type} (word : Nat) (next : Nat → α) :
    forced word next = next word := by
  cases word <;> rfl

/-- Evaluate the words of a list before it is passed on. -/
def forcedList {α : Type} : List Nat → (List Nat → α) → α
  | [], next => next []
  | word :: rest, next =>
      forced word fun word =>
        forcedList rest fun rest => next (word :: rest)

@[simp]
theorem forcedList_eq {α : Type} (list : List Nat) (next : List Nat → α) :
    forcedList list next = next list := by
  induction list generalizing next with
  | nil => rfl
  | cons word rest induction => rw [forcedList, forced_eq, induction]

/-- Evaluate a chaining value before it is passed on. -/
def forcedWords {α : Type} (words : Words) (next : Words → α) : α :=
  forced words.a fun a => forced words.b fun b => forced words.c fun c =>
  forced words.d fun d => forced words.e fun e => forced words.f fun f =>
  forced words.g fun g => forced words.h fun h =>
    next ⟨a, b, c, d, e, f, g, h⟩

@[simp]
theorem forcedWords_eq {α : Type} (words : Words) (next : Words → α) :
    forcedWords words next = next words := by
  simp only [forcedWords, forced_eq]

/-- The rounds with evaluated words. -/
def strictRounds : List Nat →
    (w0 w1 w2 w3 w4 w5 w6 w7 w8 w9 w10 w11 w12 w13 w14 w15 : Nat) →
    (a b c d e f g h : Nat) → Words
  | [], _, _, _, _, _, _, _, _, _, _, _, _, _, _, _, _, a, b, c, d, e, f,
      g, h => ⟨a, b, c, d, e, f, g, h⟩
  | constant :: constants, w0, w1, w2, w3, w4, w5, w6, w7, w8, w9, w10,
      w11, w12, w13, w14, w15, a, b, c, d, e, f, g, h =>
      forced ((w0 +
          (rotateRight w1 7 ^^^ rotateRight w1 18 ^^^ (w1 >>> 3)) + w9 +
          (rotateRight w14 17 ^^^ rotateRight w14 19 ^^^ (w14 >>> 10))) %
        0x100000000) fun w16 =>
      forced ((h + (rotateRight e 6 ^^^ rotateRight e 11 ^^^
          rotateRight e 25) + ((e &&& f) ^^^ ((0xffffffff - e) &&& g)) +
        constant + w0) % 0x100000000) fun first =>
      forced (wordAdd first ((rotateRight a 2 ^^^ rotateRight a 13 ^^^
        rotateRight a 22) +
          ((a &&& b) ^^^ (a &&& c) ^^^ (b &&& c)))) fun sum =>
      forced (wordAdd d first) fun shifted =>
      strictRounds constants w1 w2 w3 w4 w5 w6 w7 w8 w9 w10 w11 w12 w13 w14
        w15 w16 sum a b c shifted e f g

theorem rounds_eq_strictRounds (constants : List Nat)
    (w0 w1 w2 w3 w4 w5 w6 w7 w8 w9 w10 w11 w12 w13 w14 w15 : Nat)
    (state : Words) :
    rounds constants [w0, w1, w2, w3, w4, w5, w6, w7, w8, w9, w10, w11, w12,
        w13, w14, w15] state =
      strictRounds constants w0 w1 w2 w3 w4 w5 w6 w7 w8 w9 w10 w11 w12 w13
        w14 w15 state.a state.b state.c state.d state.e state.f state.g
        state.h := by
  induction constants generalizing w0 w1 w2 w3 w4 w5 w6 w7 w8 w9 w10 w11 w12
    w13 w14 w15 state with
  | nil => rfl
  | cons constant constants induction =>
      simp only [strictRounds, forced_eq]
      exact induction w1 w2 w3 w4 w5 w6 w7 w8 w9 w10 w11 w12 w13 w14 w15 _
        (round state constant w0)

def strictBlock (block : List Nat) (state : Words) : Words :=
  match block with
  | [w0, w1, w2, w3, w4, w5, w6, w7, w8, w9, w10, w11, w12, w13, w14, w15] =>
      strictRounds roundConstants w0 w1 w2 w3 w4 w5 w6 w7 w8 w9 w10 w11 w12
        w13 w14 w15 state.a state.b state.c state.d state.e state.f state.g
        state.h
  | block => rounds roundConstants block state

theorem strictBlock_eq (block : List Nat) (state : Words) :
    strictBlock block state = rounds roundConstants block state := by
  unfold strictBlock
  split
  · exact (rounds_eq_strictRounds _ _ _ _ _ _ _ _ _ _ _ _ _ _ _ _ _
      state).symm
  · rfl

/-- The blocks one after the other, each evaluated before the next. -/
def strictBlocks : Nat → List Nat → Words → Words
  | 0, _, state => state
  | count + 1, message, state =>
      forcedList (message.take 16) fun block =>
        forcedWords (combine state (strictBlock block state)) fun state =>
          strictBlocks count (message.drop 16) state

theorem strictBlocks_eq (count : Nat) (message : List Nat) (state : Words) :
    strictBlocks count message state = blocks count message state := by
  induction count generalizing message state with
  | zero => rfl
  | succ count induction =>
      rw [strictBlocks, blocks, forcedList_eq, forcedWords_eq, induction,
        strictBlock_eq]

end Sha256

/-- The digest with every word evaluated as soon as it is there, which is
the order in which it is cheap to evaluate by itself. -/
def strictSha256 (content : Bytes) : Text :=
  let padded := Sha256.pad content
  (Sha256.strictBlocks (padded.length / 64) (Sha256.words padded)
    Sha256.initial).list.flatMap Sha256.hexWord

theorem sha256_eq_strict : sha256 = strictSha256 := by
  funext content
  rw [sha256, strictSha256, Sha256.strictBlocks_eq]
  rfl

/-- The letter `a`, thirty-two times. -/
example :
    sha256 (List.replicate 32 97) =
      text ("3ba3f5f43b92602683c19aee62a20342" ++
        "b084dd5971ddd33808d81a328879a547") := by
  rw [sha256_eq_strict]
  decide +kernel

/-- The letter `a`, a hundred times. -/
example :
    sha256 (List.replicate 100 97) =
      text ("2816597888e4a0d3a36b82b83316ab32" ++
        "680eb8f00f8cd3b904d681246d285a0e") := by
  rw [sha256_eq_strict]
  decide +kernel

end ScientificResourceLab.Python
