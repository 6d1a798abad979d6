import Mathlib.Data.List.Forall2
import SchemaDoc.Proofs.Encoding.Codec
import SchemaDoc.Text.Lines

/-!
Contract: the lines of a text and the lines of the bytes that store it.

The bytes are cut after each byte of a line feed. Whatever the codec, the pieces store the lines of
the text, one by one (`Codec.Stores.lines`).
-/

namespace SchemaDoc.Encoding

/-- The bytes, cut after each line feed. -/
def byteLines : Bytes → List Bytes
  | [] => []
  | byte :: rest =>
    if byte = 10 then
      [byte] :: byteLines rest
    else
      match byteLines rest with
      | [] => [[byte]]
      | first :: others => (byte :: first) :: others

/-- Bytes without a line feed are put in front of the first line. -/
theorem byteLines_append {front : Bytes} (nonempty : front ≠ []) (absent : 10 ∉ front)
    (back : Bytes) :
    byteLines (front ++ back) = (front ++ (byteLines back).headD []) :: (byteLines back).tail := by
  induction front with
  | nil => exact absurd rfl nonempty
  | cons byte front inductionHypothesis =>
      have notFeed : byte ≠ 10 := fun isFeed => absent (by simp [isFeed])
      rw [List.cons_append, byteLines, if_neg notFeed]
      by_cases empty : front = []
      · subst empty
        rw [List.nil_append]
        cases byteLines back <;> rfl
      · rw [inductionHypothesis empty fun member => absent (List.mem_cons_of_mem byte member)]
        rfl

theorem flatten_byteLines (bytes : Bytes) : (byteLines bytes).flatten = bytes := by
  induction bytes with
  | nil => rfl
  | cons byte rest inductionHypothesis =>
      rw [byteLines]
      split
      · rw [List.flatten_cons, inductionHypothesis]
        rfl
      · revert inductionHypothesis
        cases byteLines rest with
        | nil => simp
        | cons first others => simp

/-- The first lines are the lines of what they make up. -/
theorem byteLines_take (bytes : Bytes) (count : Nat) :
    byteLines ((byteLines bytes).take count).flatten = (byteLines bytes).take count := by
  induction bytes generalizing count with
  | nil => simp [byteLines]
  | cons byte rest inductionHypothesis =>
      cases count with
      | zero => rfl
      | succ count =>
          rw [byteLines]
          split
          · next isFeed =>
              rw [List.take_succ_cons, List.flatten_cons, List.singleton_append, byteLines,
                if_pos isFeed, inductionHypothesis]
          · next notFeed =>
              have front := inductionHypothesis (count + 1)
              revert front
              cases byteLines rest with
              | nil => simp [byteLines, notFeed]
              | cons first others =>
                  intro front
                  rw [List.take_succ_cons, List.flatten_cons] at front ⊢
                  rw [List.cons_append, byteLines, if_neg notFeed, front]

/-- The lines below the first one are the lines of what follows it. -/
theorem byteLines_tail (bytes : Bytes) :
    byteLines (byteLines bytes).tail.flatten = (byteLines bytes).tail := by
  induction bytes with
  | nil => rfl
  | cons byte rest inductionHypothesis =>
      rw [byteLines]
      split
      · rw [List.tail_cons, flatten_byteLines]
      · revert inductionHypothesis
        cases byteLines rest <;> exact id

namespace Codec

variable {codec : Codec}

theorem Stores.flatten {texts : List Text} {pieces : List Bytes}
    (stores : List.Forall₂ codec.Stores texts pieces) :
    codec.Stores texts.flatten pieces.flatten := by
  induction stores with
  | nil => exact .nil
  | cons first _ inductionHypothesis =>
      exact stores_append_iff.mpr ⟨_, _, first, inductionHypothesis, rfl⟩

/-- The lines of the bytes store the lines of the text. -/
theorem Stores.lines (faithful : codec.IsFaithful) {text : Text} {bytes : Bytes}
    (stores : codec.Stores text bytes) :
    List.Forall₂ codec.Stores (Text.lines text) (byteLines bytes) := by
  induction stores with
  | nil => exact .nil
  | @cons c text stored bytes isStored _ inductionHypothesis =>
      obtain ⟨nonempty, ofFeed, ofOther⟩ := charBytes?_feed faithful isStored
      by_cases isFeed : c = '\n'
      · obtain rfl := ofFeed isFeed
        rw [Text.lines, if_pos isFeed]
        exact .cons (.cons isStored .nil) inductionHypothesis
      · rw [Text.lines, if_neg isFeed, byteLines_append nonempty (ofOther isFeed)]
        revert inductionHypothesis
        generalize Text.lines text = lines, byteLines bytes = pieces
        intro inductionHypothesis
        cases inductionHypothesis with
        | nil => exact .cons (.cons isStored .nil) .nil
        | cons first others => exact .cons (.cons isStored first) others

end Codec

end SchemaDoc.Encoding
