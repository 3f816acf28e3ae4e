import ScientificResourceLab.Transport.Identity

/-!
# The exits of `receive`

Each of the three stages of `verdict` returns an exit exactly when the checks
before that exit passed and its own check decided.  The exits, and the writes
they make, are all that a proof about `receive` needs.
-/

namespace ScientificResourceLab.Transport

open Python Contracts Steps
open Steps.Program (observe inspect update compute Safe)

/-! ## The checks -/

theorem verifiedVerdict_eq_ok_iff
    {state : State} {message signature : Members} {messageId : Text}
    {now : Nat} {ttlSeconds : Int} {exit : Verdict} :
    state.verifiedVerdict message signature messageId now ttlSeconds =
        .ok exit ↔
      (state.isDuplicate message = .ok true ∧
        exit = .duplicate messageId) ∨
      (state.isDuplicate message = .ok false ∧
        ((state.hashChainAccepts signature = .ok false ∧
          exit = .quarantined message messageId
            (text "hash_chain_rejected")) ∨
        (state.hashChainAccepts signature = .ok true ∧
          ((textField message (text "classification") ∉
              [text "D0", text "D1"] ∧
            exit = .rejected message messageId) ∨
          (textField message (text "classification") ∈
              [text "D0", text "D1"] ∧
            ∃ created,
              parseUtc (textField message (text "created_utc")) =
                .ok created ∧
              ((ttlSeconds < (now : Int) - created ∧
                exit = .expired message messageId) ∨
              ((now : Int) - created ≤ ttlSeconds ∧
                exit = .imported message messageId))))))) := by
  simp only [State.verifiedVerdict, bind_eq_ok_iff]
  constructor
  · rintro ⟨duplicate, isDuplicate, chosen⟩
    cases duplicate with
    | true =>
        cases chosen
        exact .inl ⟨isDuplicate, rfl⟩
    | false =>
        refine .inr ⟨isDuplicate, ?_⟩
        simp only [Bool.false_eq_true, if_false, bind_eq_ok_iff] at chosen
        obtain ⟨accepted, isAccepted, chosen⟩ := chosen
        cases accepted with
        | false =>
            cases chosen
            exact .inl ⟨isAccepted, rfl⟩
        | true =>
            refine .inr ⟨isAccepted, ?_⟩
            simp only [Bool.true_eq_false, if_false] at chosen
            by_cases known : textField message (text "classification") ∈
                [text "D0", text "D1"]
            · rw [if_neg (not_not.mpr known), bind_eq_ok_iff] at chosen
              obtain ⟨created, isCreated, chosen⟩ := chosen
              refine .inr ⟨known, created, isCreated, ?_⟩
              split_ifs at chosen with late
              · cases chosen
                exact .inl ⟨late, rfl⟩
              · cases chosen
                exact .inr ⟨not_lt.mp late, rfl⟩
            · rw [if_pos known] at chosen
              cases chosen
              exact .inl ⟨known, rfl⟩
  · rintro (⟨isDuplicate, rfl⟩ | ⟨isDuplicate, rest⟩)
    · exact ⟨true, isDuplicate, rfl⟩
    · refine ⟨false, isDuplicate, ?_⟩
      simp only [Bool.false_eq_true, if_false, bind_eq_ok_iff]
      rcases rest with ⟨isAccepted, rfl⟩ | ⟨isAccepted, rest⟩
      · exact ⟨false, isAccepted, rfl⟩
      · refine ⟨true, isAccepted, ?_⟩
        simp only [Bool.true_eq_false, if_false]
        rcases rest with ⟨unknown, rfl⟩ | ⟨known, created, isCreated, rest⟩
        · rw [if_pos unknown]
          rfl
        · rw [if_neg (not_not.mpr known), bind_eq_ok_iff]
          refine ⟨created, isCreated, ?_⟩
          rcases rest with ⟨late, rfl⟩ | ⟨fresh, rfl⟩
          · rw [if_pos late]
            rfl
          · rw [if_neg (not_lt.mpr fresh)]
            rfl

theorem messageVerdict_eq_ok_iff
    {state : State} {message : Members} {messageId : Text}
    {verifier : Verifier} {now : Nat} {ttlSeconds : Int}
    {exit : Verdict} (shaped : isObjectId messageId = true) :
    state.messageVerdict message messageId verifier now ttlSeconds =
        .ok exit ↔
      (∃ error,
        decodeSignature (state.signatures.lookup (filename messageId)) =
          .error error ∧ caught error = true ∧
        exit = .quarantined message messageId
          (text "missing_or_bad_signature:" ++ error.message)) ∨
      ∃ signature,
        decodeSignature (state.signatures.lookup (filename messageId)) =
          .ok signature ∧
        ((verifier message signature = .ok false ∧
          exit = .quarantined message messageId
            (text "signature_verification_failed")) ∨
        (verifier message signature = .ok true ∧
          state.verifiedVerdict message signature messageId now
            ttlSeconds = .ok exit)) := by
  have name : jsonFilename messageId = .ok (filename messageId) :=
    jsonFilename_eq_ok.mpr ⟨shaped, rfl⟩
  simp only [State.messageVerdict, name, bind_eq_ok_iff,
    Except.ok.injEq, exists_eq_left']
  cases signed : decodeSignature
      (state.signatures.lookup (filename messageId)) with
  | error error =>
      simp only [Except.error.injEq, exists_eq_left', reduceCtorEq,
        false_and, exists_false, or_false]
      cases caught error with
      | false => simp
      | true =>
          simp only [if_true, pure_eq_ok_iff, true_and]
          exact eq_comm
  | ok signature =>
      simp only [reduceCtorEq, false_and, exists_false, false_or,
        Except.ok.injEq, exists_eq_left', bind_eq_ok_iff]
      constructor
      · rintro ⟨verified, isVerified, chosen⟩
        cases verified with
        | false =>
            cases chosen
            exact .inl ⟨isVerified, rfl⟩
        | true => exact .inr ⟨isVerified, chosen⟩
      · rintro (⟨isVerified, rfl⟩ | ⟨isVerified, chosen⟩)
        · exact ⟨false, isVerified, rfl⟩
        · exact ⟨true, isVerified, chosen⟩

theorem verdict_eq_ok_iff
    {state : State} {file : Option Bytes} {verifier : Verifier}
    {nowUtc : Text} {ttlSeconds : Int} {exit : Verdict} :
    state.verdict file verifier nowUtc ttlSeconds = .ok exit ↔
      ∃ now, parseUtc nowUtc = .ok now ∧ 0 ≤ ttlSeconds ∧
        ((∃ error, decodeMessage file = .error error ∧
          caught error = true ∧ exit = .malformed error) ∨
        ∃ message messageId, readJsonObject file = .ok message ∧
          Checked message messageId ∧
          state.messageVerdict message messageId verifier now ttlSeconds =
            .ok exit) := by
  simp only [State.verdict, bind_eq_ok_iff, refuseIf_eq_ok_iff, not_lt]
  refine exists_congr fun now => and_congr_right fun _ => ?_
  refine exists_const _ |>.trans (and_congr_right fun _ => ?_)
  cases decoded : decodeMessage file with
  | error error =>
      have undecoded (message : Members) (messageId : Text) :
          ¬ (readJsonObject file = .ok message ∧
            Checked message messageId) := by
        rw [← decodeMessage_eq_ok, decoded]
        simp
      constructor
      · intro chosen
        simp only at chosen
        split_ifs at chosen with isCaught
        cases chosen
        exact .inl ⟨error, rfl, isCaught, rfl⟩
      · rintro (⟨_, ⟨⟩, isCaught, rfl⟩ |
          ⟨message, messageId, read, checked, -⟩)
        · exact if_pos isCaught
        · exact absurd ⟨read, checked⟩ (undecoded message messageId)
  | ok both =>
      obtain ⟨message, messageId⟩ := both
      obtain ⟨read, checked⟩ := decodeMessage_eq_ok.mp decoded
      constructor
      · intro chosen
        exact .inr ⟨message, messageId, read, checked, chosen⟩
      · rintro (⟨_, ⟨⟩, -⟩ | ⟨other, otherId, otherRead, otherChecked,
          chosen⟩)
        have same := decodeMessage_eq_ok.mpr ⟨otherRead, otherChecked⟩
        rw [decoded, Except.ok.injEq, Prod.mk.injEq] at same
        rw [same.1, same.2]
        exact chosen

/-- The exit that imports a message comes after every check. -/
theorem verdict_eq_imported_iff
    {state : State} {file : Option Bytes} {verifier : Verifier}
    {nowUtc : Text} {ttlSeconds : Int} {message : Members}
    {messageId : Text} :
    state.verdict file verifier nowUtc ttlSeconds =
        .ok (.imported message messageId) ↔
      ∃ now created signature, parseUtc nowUtc = .ok now ∧
        0 ≤ ttlSeconds ∧ readJsonObject file = .ok message ∧
        Checked message messageId ∧
        decodeSignature (state.signatures.lookup (filename messageId)) =
          .ok signature ∧
        verifier message signature = .ok true ∧
        state.isDuplicate message = .ok false ∧
        state.hashChainAccepts signature = .ok true ∧
        textField message (text "classification") ∈
          [text "D0", text "D1"] ∧
        parseUtc (textField message (text "created_utc")) = .ok created ∧
        (now : Int) - created ≤ ttlSeconds := by
  constructor
  · intro chosen
    obtain ⟨now, isNow, nonNegative, chosen⟩ := verdict_eq_ok_iff.mp chosen
    rcases chosen with ⟨_, _, _, ⟨⟩⟩ |
      ⟨found, foundId, read, checked, chosen⟩
    rcases (messageVerdict_eq_ok_iff checked.shaped).mp chosen with
      ⟨_, _, _, ⟨⟩⟩ | ⟨signature, signed, chosen⟩
    rcases chosen with ⟨_, ⟨⟩⟩ | ⟨verified, chosen⟩
    rcases verifiedVerdict_eq_ok_iff.mp chosen with
      ⟨_, ⟨⟩⟩ | ⟨unique, chosen⟩
    rcases chosen with ⟨_, ⟨⟩⟩ | ⟨accepted, chosen⟩
    rcases chosen with ⟨_, ⟨⟩⟩ | ⟨known, created, isCreated, chosen⟩
    rcases chosen with ⟨_, ⟨⟩⟩ | ⟨fresh, ⟨⟩⟩
    exact ⟨now, created, signature, isNow, nonNegative, read, checked,
      signed, verified, unique, accepted, known, isCreated, fresh⟩
  · rintro ⟨now, created, signature, isNow, nonNegative, read, checked,
      signed, verified, unique, accepted, known, isCreated, fresh⟩
    refine verdict_eq_ok_iff.mpr ⟨now, isNow, nonNegative,
      .inr ⟨message, messageId, read, checked, ?_⟩⟩
    refine (messageVerdict_eq_ok_iff checked.shaped).mpr
      (.inr ⟨signature, signed, .inr ⟨verified, ?_⟩⟩)
    exact verifiedVerdict_eq_ok_iff.mpr (.inr ⟨unique, .inr ⟨accepted,
      .inr ⟨known, created, isCreated, .inr ⟨fresh, rfl⟩⟩⟩⟩)

end ScientificResourceLab.Transport
