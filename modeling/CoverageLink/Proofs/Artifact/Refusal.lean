import CoverageLink.Proofs.Artifact.Sync

/-!
# A pass ends where its receiver fails

The receiver may fail at any file.  Then the pass fails as well, with the failure of the receiver,
and that was the last file the receiver was handed.  Nothing else makes a pass fail, however deep in
archives it is, and whatever cannot be read there (`Sync.run_ends_at_refusal`).

## 1.  Receivers that keep a list

A receiver is known by its replies.  To tell which files it was handed, it keeps a list of
them (`recording`), and its reply may depend on all that is in the list.

## 2.  The end of a pass

That a pass hands over the eligible files until the receiver fails is known (`Sync.run_delivers`),
so what is left is where a row of files breaks off.  A part of the pass in which nothing can be read
does not get to the receiver at all (`Walk.receive_of_offer_error`).
-/

namespace CoverageLink
namespace Artifact

open Files (Host Path Spot Volume)

/-! ## 1.  Receivers that keep a list -/

/-- Replies to every file, and keeps a list of the files so far. -/
def recording (reply : List Sent → Sent → Except Failure Unit) : Receiver (List Sent) :=
  fun name contents handed => (reply handed (name, contents), handed ++ [(name, contents)])

/-- A receiver that fails for the first time when it is called for the `k`-th time. -/
structure RefusesAt (reply : List Sent → Sent → Except Failure Unit) (k : Nat) (failure : Failure) :
    Prop where
  taken : ∀ handed file, handed.length + 1 < k → reply handed file = .ok ()
  refused : ∀ handed file, handed.length + 1 = k → reply handed file = .error failure

variable {reply : List Sent → Sent → Except Failure Unit} {k : Nat}

/-- What comes before the failure is taken and noted. -/
theorem deliver_recording_of_taken
    (taken : ∀ handed file, handed.length + 1 < k → reply handed file = .ok ())
    {files handed : List Sent} (few : handed.length + files.length < k) :
    deliver (recording reply) files handed = (.ok (), handed ++ files) := by
  induction files generalizing handed with
  | nil => rw [List.append_nil]; rfl
  | cons file files ih =>
    rw [List.length_cons] at few
    have next : (handed ++ [file]).length + files.length < k := by
      rw [List.length_append, List.length_singleton]
      omega
    rw [deliver, handOver, recording, taken handed _ (by omega)]
    show deliver (recording reply) files (handed ++ [file]) = _
    rw [ih next, List.append_assoc, List.singleton_append]

/-- The file that is not taken is noted as well, and it is the last one. -/
theorem RefusesAt.deliver_recording {failure : Failure} (refuses : RefusesAt reply k failure)
    (first : 1 ≤ k) {files : List Sent} (enough : k ≤ files.length) :
    deliver (recording reply) files [] = (.error failure, files.take k) := by
  have last : k - 1 < files.length := by omega
  have done : (files.take (k - 1)).length = k - 1 := List.length_take_of_le (by omega)
  have split : files = files.take (k - 1) ++ files[k - 1] :: files.drop k := by
    have rest := List.drop_eq_getElem_cons last
    rw [Nat.sub_add_cancel first] at rest
    rw [← rest, List.take_append_drop]
  have upto : files.take k = files.take (k - 1) ++ [files[k - 1]] := by
    rw [List.take_append_getElem last, Nat.sub_add_cancel first]
  refine handOver_eq_error_iff.2 ⟨_, _, _, files.take (k - 1), split, ?_, ?_⟩
  · have few : ([] : List Sent).length + (files.take (k - 1)).length < k := by
      rw [List.length_nil, done]
      omega
    exact deliver_recording_of_taken refuses.taken few
  · rw [recording, refuses.refused _ _ (by rw [done]; omega), upto]

/-! ## 2.  The end of a pass -/

/-- A candidate is sent as it is, and only if it can be read. -/
theorem eligible_singleton (filter : Filter) (known : KnownIds) (name : String)
    (loaded : Except String Bytes) :
    eligible filter known [⟨name, loaded⟩] = [] ∨
      ∃ contents, loaded = .ok contents ∧
        eligible filter known [⟨name, loaded⟩] = [(name, contents)] := by
  let candidate : Candidate := ⟨name, loaded⟩
  cases accepted : candidate.accepted filter with
  | false => exact .inl (fate_of_rejected known candidate accepted).1
  | true =>
    cases stored : candidate.stored known with
    | true => exact .inl (fate_of_stored known candidate accepted stored).1
    | false =>
      rw [(fate_of_wanted known candidate accepted stored).1]
      cases loaded with
      | error reason => exact .inl rfl
      | ok contents =>
        rcases sendable : candidate.sendable? with _ | sent
        · exact .inl (by rw [Candidate.file?, sendable]; rfl)
        · have same : sent = contents := by
            unfold Candidate.sendable? at sendable
            split at sendable
            · rename_i read
              split at sendable
              · exact (Option.some.inj sendable).symm.trans (Except.ok.inj read).symm
              · cases sendable
            · cases sendable
          refine .inr ⟨contents, rfl, ?_⟩
          rw [Candidate.file?, sendable, same]
          rfl

/-- An offer, made by itself. -/
theorem Walk.offered_offer {σ : Type} (sync : Sync) (known : KnownIds) (receive : Receiver σ)
    (name : String) (load : Unit → Except String Bytes) (pass : Pass σ) :
    Offered sync known receive pass.volume [⟨name, load ()⟩] pass
      (offer sync known receive name load pass) :=
  offers_offer name load pass pass.volume.made rfl

/-- **An offer fails only if it is made**: what cannot be read never gets to the receiver. -/
theorem Walk.receive_of_offer_error {σ : Type} {sync : Sync} {known : KnownIds}
    {receive : Receiver σ} {name : String} {load : Unit → Except String Bytes} {pass : Pass σ}
    {failure : Failure} (failed : (offer sync known receive name load pass).1 = .error failure) :
    ∃ contents, load () = .ok contents ∧
      (receive name contents pass.receiver).1 = .error failure := by
  have ended := congrArg Prod.fst (offered_offer sync known receive name load pass).delivered
  rw [failed] at ended
  rcases eligible_singleton sync.filter known name (load ()) with none_sent | ⟨contents, read, sent⟩
  · rw [none_sent] at ended
    cases ended
  · rw [sent, deliver, handOver_singleton] at ended
    exact ⟨contents, read, ended.symm⟩

namespace Sync

/-- **A pass ends at the first failure of its receiver and at nothing else.**  Let `files` be what a
receiver gets that never fails, in which case the pass does not fail.  One that fails at the `k`-th
call gets the first `k` of them, and the pass ends with its failure; if there are fewer, all is as
without it.  Whatever the receiver, a failure of a pass is that of the receiver at the file that it
was handed last; and an artifact that cannot be read is none of them. -/
theorem run_ends_at_refusal (sync : Sync) (unpack : Unpacker) (request : PullRequest)
    (volume : Volume) :
    let whole := sync.run unpack request (recording fun _ _ => .ok ()) [] volume
    let files := whole.2.receiver
    (∃ tally, whole.1 = .ok tally) ∧
      (∀ reply k failure, 1 ≤ k → RefusesAt reply k failure →
        let outcome := sync.run unpack request (recording reply) [] volume
        (k ≤ files.length → outcome.1 = .error failure ∧ outcome.2.receiver = files.take k) ∧
          (files.length < k → outcome.1 = whole.1 ∧ outcome.2.receiver = files)) ∧
      (∀ (σ : Type) (receive : Receiver σ) (receiver : σ) (failure : Failure),
        let outcome := sync.run unpack request receive receiver volume
        outcome.1 = .error failure →
          ∃ done file rest state, files = done ++ file :: rest ∧
            deliver receive done receiver = (.ok (), state) ∧
            receive file.1 file.2 state = (.error failure, outcome.2.receiver)) ∧
      ∀ (σ : Type) (receive : Receiver σ) (name : String) (load : Unit → Except String Bytes)
        (pass : Pass σ) (failure : Failure),
        (Walk.offer sync request.known receive name load pass).1 = .error failure →
          ∃ contents, load () = .ok contents ∧
            (receive name contents pass.receiver).1 = .error failure := by
  intro whole files
  have unfailing : ∀ files, deliver (recording fun _ _ => .ok ()) files [] = (.ok (), files) :=
    fun files => deliver_recording_of_taken (k := files.length + 1) (fun _ _ _ => rfl) (by simp)
  obtain ⟨result, handed⟩ :=
    sync.run_delivers unpack request (recording fun _ _ => .ok ()) [] volume
  rw [unfailing] at result handed
  have same : eligible sync.filter request.known
      (sync.candidates unpack request.kind volume) = files := handed.symm
  refine ⟨⟨_, result⟩, fun reply k failure first refuses => ?_, ?_,
    fun _ _ _ _ _ _ => Walk.receive_of_offer_error⟩
  · intro outcome
    obtain ⟨ended, noted⟩ := sync.run_delivers unpack request (recording reply) [] volume
    rw [same] at ended noted
    constructor
    · intro enough
      rw [refuses.deliver_recording first enough] at ended noted
      exact ⟨ended, noted⟩
    · intro few
      rw [deliver_recording_of_taken refuses.taken (by simpa using few)] at ended noted
      exact ⟨ended.trans result.symm, noted⟩
  · intro σ receive receiver failure outcome failed
    obtain ⟨ended, left⟩ := sync.run_delivers unpack request receive receiver volume
    rw [same] at ended left
    rcases delivered : deliver receive files receiver with ⟨other | _, after⟩
    · rw [delivered] at ended left
      cases failed.symm.trans ended
      obtain ⟨done, file, rest, middle, split, taken, refused⟩ := handOver_eq_error_iff.1 delivered
      exact ⟨done, file, rest, middle, split, taken, refused.trans (by rw [left])⟩
    · rw [delivered] at ended
      cases failed.symm.trans ended

/-- A receiver that fails at its second call, for a folder with four classes, the second one of
which cannot be opened. -/
theorem run_ends_at_refusal_of_second_call :
    let host (tree : Volume) := (Host.ofVolume tree).barring fun spot => spot.relative = "B.class"
    let sync : Sync :=
      ⟨⟨["", "dump"]⟩, none, ⟨⟨[fun _ => true]⟩, ⟨[]⟩⟩, [], ⟨["", "tmp"]⟩, host⟩
    let empty := Volume.empty ⟨["", "dump"]⟩
    let volume := ((((empty.put ["A.class"] (.file 0 [1])).put ["B.class"] (.file 1 [2])).put
      ["C.class"] (.file 2 [3])).put ["D.class"] (.file 3 [4]))
    let reply (handed : List Sent) (_ : Sent) : Except Failure Unit :=
      if handed.length + 1 = 2 then .error .nothingTaken else .ok ()
    let outcome := sync.run (fun _ => none) ⟨.classes, .empty⟩ (recording reply) [] volume
    RefusesAt reply 2 .nothingTaken ∧ outcome.1 = .error .nothingTaken ∧
      outcome.2.receiver = [("A.class", [1]), ("C.class", [3])] := by
  intro host sync empty volume reply outcome
  have rows : volume.entries = [(["A.class"], .file 0 [1]), (["B.class"], .file 1 [2]),
    (["C.class"], .file 2 [3]), (["D.class"], .file 3 [4])] := rfl
  have legible : volume.Legible :=
    ⟨⟨[""], "dump", rfl, by decide⟩, by decide +kernel, by decide +kernel, by decide +kernel,
      by decide +kernel, by decide +kernel⟩
  have plain : ∀ row ∈ volume.entries, isArchive (Text.join Path.separator row.1) = false := by
    decide +kernel
  have answers : sync.hostOf volume = host volume := by
    show host (volume.renumber 0) = host volume
    simp only [host, Host.ofVolume_renumber]
  have opened (name : String) (number : Nat) (contents : Bytes)
      (row : ([name], .file number contents) ∈ volume.entries) :
      (sync.hostOf volume).load (Spot.ofTexts sync.dumpFolder [name]) =
        if name = "B.class" then .error (Failure.host .permissionDenied).message
        else .ok contents := by
    have called : (Spot.ofTexts sync.dumpFolder [name]).relative = name :=
      Spot.relative_ofTexts (legible.ordinary _ row) _
    have held : (Host.ofVolume volume).load (Spot.ofTexts sync.dumpFolder [name]) = .ok contents :=
      Host.load_ofVolume legible row
    rw [answers, Host.load_barring, called, held]
    simp
  have offered : sync.candidates (fun _ => none) .classes volume =
      [⟨"A.class", .ok [1]⟩, ⟨"B.class", .error (Failure.host .permissionDenied).message⟩,
        ⟨"C.class", .ok [3]⟩, ⟨"D.class", .ok [4]⟩] := by
    have listed := candidates_of_legible (fun _ => none) .classes rfl legible rfl
      (by rw [answers]; rfl) (by rw [answers]; rfl) (by rw [answers]; rfl) plain
    rw [rows] at opened
    have first := opened "A.class" 0 [1] (by simp)
    have second := opened "B.class" 1 [2] (by simp)
    have third := opened "C.class" 2 [3] (by simp)
    have fourth := opened "D.class" 3 [4] (by simp)
    rw [listed, rows]
    simp [Files.Entry.isFull, Files.Entry.contents, first, second, third, fourth]
  have sent : eligible sync.filter .empty
      [⟨"A.class", .ok [1]⟩, ⟨"B.class", .error (Failure.host .permissionDenied).message⟩,
        ⟨"C.class", .ok [3]⟩, ⟨"D.class", .ok [4]⟩] =
        [("A.class", [1]), ("C.class", [3]), ("D.class", [4])] := by decide +kernel
  have files : (sync.run (fun _ => none) ⟨.classes, .empty⟩ (recording fun _ _ => .ok ()) []
      volume).2.receiver = [("A.class", [1]), ("C.class", [3]), ("D.class", [4])] := by
    rw [(sync.run_delivers _ _ _ _ _).2, offered, sent]
    rfl
  have refuses : RefusesAt reply 2 .nothingTaken := by
    constructor
    · intro handed _ early
      exact if_neg (by omega)
    · intro handed _ second
      exact if_pos second
  obtain ⟨-, refused, -⟩ := sync.run_ends_at_refusal (fun _ => none) ⟨.classes, .empty⟩ volume
  have stops := (refused reply 2 .nothingTaken (by decide) refuses).1
  rw [files] at stops
  exact ⟨refuses, stops (by decide)⟩

end Sync
end Artifact
end CoverageLink
