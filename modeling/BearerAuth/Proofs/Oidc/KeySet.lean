import BearerAuth.Json.Printer
import BearerAuth.Proofs.Oidc.Refresh
import Mathlib.Data.List.Induction
import Mathlib.Tactic.Set

/-!
# Keys over a run

A set of keys lives on while its provider publishes other keys, while refreshes are started and
stopped, and while their requests are sent and answered.  A `Session` is such a set of keys together
with the pages that are served at the time, and a run of it is any list of steps.

What is held is always all that one document had to offer, the last one that was brought
(`Session.keys_run`).  Only a task that runs brings documents, and none runs but the one in the slot
(`Session.tended_run`).  So a refresh that was stopped or replaced changes nothing any more, even if
it was waiting for an answer (`Session.documents_eq_nil`).
-/

namespace BearerAuth.Oidc

variable {names : Network.Names} {pages : Network.Pages} {uri : String}
  {response : Option Network.Response}

/-! ## Runs -/

/-- A set of keys and the network that it is in. -/
structure Session where
  /-- The rules of names. -/
  names : Network.Names
  /-- What is served now. -/
  pages : Network.Pages
  /-- What is held. -/
  held : RemoteKeySet

/-- What may happen while keys are held. -/
inductive Step where
  /-- A refresh is started. -/
  | startRefresh (interval : Nat)
  /-- The refresh is stopped. -/
  | close
  /-- Other pages are served from now on. -/
  | serve (pages : Network.Pages)
  /-- The time of a task has come. -/
  | ask (handle : Nat)
  /-- The answer that a task waits for has come. -/
  | receive (handle : Nat)
  /-- A key is looked up. -/
  | lookUp (keyId : Option String)

namespace Step

/-- The session after a step. -/
def after (s : Session) : Step → Session
  | startRefresh interval => { s with held := s.held.startRefresh interval }
  | close => { s with held := s.held.close }
  | serve pages => { s with pages }
  | ask handle => { s with held := s.held.ask s.names s.pages handle }
  | receive handle => { s with held := s.held.receive handle }
  | lookUp _ => s

/-- The document that a step brings: the one that a task is answered, if it has a usable key. -/
def brings? (s : Session) : Step → Option (List KeyRecord)
  | receive handle => (s.held.answer? handle).bind good?
  | startRefresh _ | close | serve _ | ask _ | lookUp _ => none

/-- The time between two attempts of the refresh that is installed because of a step, if the step
has to do with that. -/
def installs? : Step → Option (Option Nat)
  | startRefresh interval => some (some (min interval RemoteKeySet.maxInterval))
  | close => some none
  | serve _ | ask _ | receive _ | lookUp _ => none

end Step

namespace Session

/-- The session after some steps. -/
def run (s : Session) (steps : List Step) : Session := steps.foldl Step.after s

/-- The documents that some steps bring, one after the other. -/
def documents (s : Session) : List Step → List (List KeyRecord)
  | [] => []
  | step :: rest => (step.brings? s).toList ++ (step.after s).documents rest

end Session

/-! ### One step -/

namespace Step

variable {s : Session} {step : Step}

/-- What a step brings has a usable key. -/
theorem usableKeys_ne_nil {records : List KeyRecord} (h : step.brings? s = some records) :
    usableKeys records ≠ [] := by
  cases step with
  | receive n =>
    obtain ⟨response, -, hgood⟩ := Option.bind_eq_some_iff.mp h
    exact (good?_eq_some_iff.mp hgood).2
  | startRefresh _ | close | serve _ | ask _ | lookUp _ => cases h

/-- The keys are those of the document that the step brings; if it brings none, they stay. -/
theorem keys_after (s : Session) (step : Step) :
    (step.after s).held.keys = ((step.brings? s).map usableKeys).getD s.held.keys := by
  cases step with
  | startRefresh interval => exact RemoteKeySet.keys_startRefresh _ _
  | close => exact RemoteKeySet.keys_close _
  | receive n => exact RemoteKeySet.keys_receive _ _
  | serve _ | ask _ | lookUp _ => rfl

/-- The address stays the same. -/
theorem uri_after (s : Session) (step : Step) : (step.after s).held.uri = s.held.uri := by
  cases step with
  | startRefresh interval => rw [after, RemoteKeySet.startRefresh]; cases s.held.slot <;> rfl
  | close => rw [after, RemoteKeySet.close]; cases s.held.slot <;> rfl
  | receive n => exact RemoteKeySet.uri_receive _ _
  | serve _ | ask _ | lookUp _ => rfl

/-- No step leaves a task running that the slot has no handle of. -/
theorem tended_after (h : s.held.Tended) (step : Step) : (step.after s).held.Tended := by
  cases step with
  | startRefresh interval => exact h.startRefresh interval
  | close => exact h.close
  | serve _ | lookUp _ => exact h
  | ask n => exact RemoteKeySet.tended_ask h _ _ n
  | receive n => exact RemoteKeySet.tended_receive h n

/-- The refresh is the one that the step installs; if it has nothing to do with that, it stays. -/
theorem installed?_after (s : Session) (step : Step) :
    (step.after s).held.installed? = step.installs?.getD s.held.installed? := by
  cases step with
  | startRefresh interval => exact RemoteKeySet.installed?_startRefresh _ _
  | close => exact RemoteKeySet.installed?_close _
  | serve _ | lookUp _ => rfl
  | ask n => exact RemoteKeySet.installed?_ask _ _ _
  | receive n => exact RemoteKeySet.installed?_receive _ _

/-- What a task will be answered it had asked for before the step, or the step has it ask. -/
theorem answer?_after {n : Nat} (h : (step.after s).held.answer? n = some response) :
    s.held.answer? n = some response ∨ response = Network.get? s.names s.pages s.held.uri := by
  cases step with
  | startRefresh interval => exact .inl (RemoteKeySet.answer?_startRefresh h)
  | close => exact .inl (RemoteKeySet.answer?_close h)
  | serve _ | lookUp _ => exact .inl h
  | ask m => exact RemoteKeySet.answer?_ask h
  | receive m => exact .inl (RemoteKeySet.answer?_receive h)

/-- As long as no task runs, no step but the start of one brings anything. -/
theorem brings?_of_slot_eq_none (h : s.held.Tended) (hslot : s.held.slot = none) :
    step.brings? s = none := by
  cases step with
  | receive n =>
    refine Option.bind_eq_none_iff.mpr fun response hanswer ↦ ?_
    have hruns := (h n).mp (RemoteKeySet.runs_of_answer? hanswer)
    rw [hslot] at hruns
    cases hruns
  | startRefresh _ | close | serve _ | ask _ | lookUp _ => rfl

/-- No step but the start of a refresh fills the slot. -/
theorem slot_after_of_eq_none (hslot : s.held.slot = none)
    (hstep : ∀ interval, step ≠ .startRefresh interval) : (step.after s).held.slot = none := by
  cases step with
  | startRefresh interval => exact absurd rfl (hstep interval)
  | close => rw [after, RemoteKeySet.close, hslot]; exact hslot
  | receive n =>
    rw [after]
    cases hanswer : s.held.answer? n with
    | none => rwa [RemoteKeySet.receive_of_answer?_eq_none hanswer]
    | some response => rw [RemoteKeySet.receive_of_answer? hanswer]; exact hslot
  | serve _ | ask _ | lookUp _ => exact hslot

end Step

/-! ### All steps -/

namespace Session

variable {s : Session} {steps : List Step}

@[simp] theorem run_cons (s : Session) (step : Step) (rest : List Step) :
    s.run (step :: rest) = (step.after s).run rest := rfl

theorem run_append_singleton (s : Session) (steps : List Step) (step : Step) :
    s.run (steps ++ [step]) = step.after (s.run steps) := by
  rw [run, List.foldl_append]
  rfl

theorem documents_append_singleton (s : Session) (steps : List Step) (step : Step) :
    s.documents (steps ++ [step]) = s.documents steps ++ (step.brings? (s.run steps)).toList := by
  induction steps generalizing s with
  | nil => simp [documents, run]
  | cons first rest ih => simp [documents, ih]

/-- The address stays the same. -/
theorem uri_run (s : Session) (steps : List Step) : (s.run steps).held.uri = s.held.uri := by
  induction steps generalizing s with
  | nil => rfl
  | cons step rest ih => rw [run_cons, ih, Step.uri_after]

/-- So do the rules of names. -/
theorem names_run (s : Session) (steps : List Step) : (s.run steps).names = s.names := by
  induction steps generalizing s with
  | nil => rfl
  | cons step rest ih => rw [run_cons, ih]; cases step <;> rfl

/-- The keys are those of the last document that the steps bring. -/
theorem keys_run (s : Session) (steps : List Step) :
    (s.run steps).held.keys =
      ((s.documents steps).getLast?.map usableKeys).getD s.held.keys := by
  induction steps generalizing s with
  | nil => rfl
  | cons step rest ih =>
    rw [run_cons, ih, documents, List.getLast?_append, Step.keys_after]
    cases ((step.after s).documents rest).getLast? with
    | some records => rfl
    | none => cases step.brings? s <;> rfl

/-- At no time a task runs that the slot has no handle of. -/
theorem tended_run (h : s.held.Tended) (steps : List Step) : (s.run steps).held.Tended := by
  induction steps generalizing s with
  | nil => exact h
  | cons step rest ih => exact ih (Step.tended_after h step)

/-- The refresh is the one that the last step installs which has to do with that. -/
theorem installed?_run (s : Session) (steps : List Step) :
    (s.run steps).held.installed? =
      (steps.filterMap Step.installs?).getLast?.getD s.held.installed? := by
  induction steps generalizing s with
  | nil => rfl
  | cons step rest ih =>
    rw [run_cons, ih, Step.installed?_after, List.filterMap_cons]
    cases step.installs? with
    | none => rfl
    | some refresh =>
      rw [List.getLast?_cons]
      cases (rest.filterMap Step.installs?).getLast? <;> rfl

/-- What the steps bring has usable keys. -/
theorem usableKeys_ne_nil_of_mem {records : List KeyRecord} (h : records ∈ s.documents steps) :
    usableKeys records ≠ [] := by
  induction steps generalizing s with
  | nil => cases h
  | cons step rest ih =>
    rcases List.mem_append.mp h with h | h
    · exact Step.usableKeys_ne_nil (Option.mem_toList.mp h)
    · exact ih h

/-- What a task will be answered was served when it asked. -/
theorem exists_get?_of_answer? (htasks : s.held.tasks = []) {n : Nat}
    (h : (s.run steps).held.answer? n = some response) : ∃ passed, passed <+: steps ∧
      response = Network.get? s.names (s.run passed).pages s.held.uri := by
  induction steps using List.reverseRecOn with
  | nil => simp [run, RemoteKeySet.answer?, htasks] at h
  | append_singleton steps step ih =>
    rw [run_append_singleton] at h
    obtain h | rfl := Step.answer?_after h
    · obtain ⟨passed, hpassed, hresponse⟩ := ih h
      exact ⟨passed, hpassed.trans (List.prefix_append ..), hresponse⟩
    · exact ⟨steps, List.prefix_append .., by rw [names_run, uri_run]⟩

/-- What the steps bring was served when a task asked for it. -/
theorem exists_served_of_mem (htasks : s.held.tasks = []) {records : List KeyRecord}
    (h : records ∈ s.documents steps) : ∃ passed, passed <+: steps ∧
      served? s.names (s.run passed).pages s.held.uri = some records := by
  induction steps using List.reverseRecOn with
  | nil => cases h
  | append_singleton steps step ih =>
    rw [documents_append_singleton] at h
    rcases List.mem_append.mp h with h | h
    · obtain ⟨passed, hpassed, hserved⟩ := ih h
      exact ⟨passed, hpassed.trans (List.prefix_append ..), hserved⟩
    · have hbrings := Option.mem_toList.mp h
      cases step with
      | receive n =>
        obtain ⟨response, hanswer, hgood⟩ := Option.bind_eq_some_iff.mp hbrings
        obtain ⟨passed, hpassed, rfl⟩ := exists_get?_of_answer? htasks hanswer
        exact ⟨passed, hpassed.trans (List.prefix_append ..), (good?_eq_some_iff.mp hgood).1⟩
      | startRefresh _ | close | serve _ | ask _ | lookUp _ => cases hbrings

/-- As long as no refresh is started, no document is brought. -/
theorem documents_eq_nil (h : s.held.Tended) (hslot : s.held.slot = none)
    (hsteps : ∀ interval, .startRefresh interval ∉ steps) : s.documents steps = [] := by
  induction steps generalizing s with
  | nil => rfl
  | cons step rest ih =>
    have hstep : ∀ interval, step ≠ .startRefresh interval := by
      rintro interval rfl
      exact hsteps interval List.mem_cons_self
    have hstill := Step.slot_after_of_eq_none hslot hstep
    have hrest := ih (Step.tended_after h step) hstill fun interval hmem ↦
      hsteps interval (.tail _ hmem)
    rw [documents, Step.brings?_of_slot_eq_none h hslot, hrest]
    rfl

/-- Once the refresh is stopped the keys stay, whatever is served and whatever it had asked for,
until another refresh is started. -/
theorem keys_run_close (h : s.held.Tended) (hsteps : ∀ interval, .startRefresh interval ∉ steps) :
    (s.run (.close :: steps)).held.keys = s.held.keys := by
  have hslot : s.held.close.slot = none := by
    rw [RemoteKeySet.close]
    split
    · rfl
    · assumption
  rw [run_cons, keys_run, documents_eq_nil (Step.tended_after h .close) hslot hsteps]
  exact Step.keys_after s .close

end Session

/-! ### From the first document on -/

/-- A set of keys that is fetched holds the usable keys of a document, of which there are some, and
nothing refreshes it. -/
theorem RemoteKeySet.fetch_eq_ok_iff {s : RemoteKeySet} :
    fetch names pages uri = .ok s ↔ ∃ records, served? names pages uri = some records ∧
      usableKeys records ≠ [] ∧ s = { uri, keys := usableKeys records } := by
  rw [fetch]
  cases hload : loadKeys names pages uri with
  | ok keys =>
    obtain ⟨records, hserved, rfl, hne⟩ := loadKeys_eq_ok_iff.mp hload
    constructor
    · intro h
      cases h
      exact ⟨records, hserved, hne, rfl⟩
    · rintro ⟨records', hserved', -, rfl⟩
      rw [hserved] at hserved'
      cases hserved'
      rfl
  | error e =>
    refine ⟨nofun, ?_⟩
    rintro ⟨records, hserved, hne, -⟩
    rw [loadKeys_eq_ok_iff.mpr ⟨records, hserved, rfl, hne⟩] at hload
    cases hload

/-- Where nothing was started nothing runs. -/
theorem RemoteKeySet.tended_of_fetch {s : RemoteKeySet} (h : fetch names pages uri = .ok s) :
    s.Tended := by
  obtain ⟨records, -, -, rfl⟩ := fetch_eq_ok_iff.mp h
  intro n
  simp [Runs]

namespace Session

/-- What holds of a session after some steps, the first document being what it is. -/
structure Kept (s : Session) (first : List KeyRecord) (steps : List Step) : Prop where
  /-- All usable keys of the last document are held, in its order, and no other key is. -/
  keys : (s.run steps).held.keys = usableKeys ((s.documents steps).getLastD first)
  /-- Every document was served when a task asked for it. -/
  served : ∀ records ∈ s.documents steps, ∃ passed, passed <+: steps ∧
    served? s.names (s.run passed).pages s.held.uri = some records
  /-- If a task is answered otherwise now, it waits again, and nothing else changes. -/
  failure : ∀ n response, (s.run steps).held.answer? n = some response → Fails response →
    (Step.receive n).after (s.run steps) =
      { s.run steps with held := (s.run steps).held.update n .settle }
  /-- If a task asks now and the attempt fails, nothing changes at all. -/
  attempt : ∀ n interval, (s.run steps).held.tasks[n]? = some ⟨interval, .waiting⟩ →
    Fails (Network.get? s.names (s.run steps).pages s.held.uri) →
      (s.run steps).run [.ask n, .receive n] = s.run steps
  /-- There is a key. -/
  ne_nil : (s.run steps).held.keys ≠ []
  /-- If the refresh is stopped now, the keys stay until another one is started. -/
  close : ∀ later, (∀ interval, .startRefresh interval ∉ later) →
    ((s.run steps).run (.close :: later)).held.keys = (s.run steps).held.keys
  /-- No task runs but the one of the refresh that is installed. -/
  running : ∀ n, (s.run steps).held.Runs n ↔ (s.run steps).held.slot = some n
  /-- The refresh that was started last is installed, unless it was stopped since. -/
  installed : (s.run steps).held.installed? = (steps.filterMap Step.installs?).getLast?.join

/-- Whatever happens after a set of keys has been fetched, it holds the keys of one document, the
last that was brought, and it always holds some. -/
theorem kept_of_fetch {held : RemoteKeySet} (h : RemoteKeySet.fetch names pages uri = .ok held) :
    ∃ first, served? names pages uri = some first ∧
      ∀ steps, Kept ⟨names, pages, held⟩ first steps := by
  have htended := RemoteKeySet.tended_of_fetch h
  obtain ⟨first, hserved, hne, rfl⟩ := RemoteKeySet.fetch_eq_ok_iff.mp h
  refine ⟨first, hserved, fun steps ↦ ?_⟩
  set s : Session := ⟨names, pages, { uri, keys := usableKeys first }⟩
  have hkeys : (s.run steps).held.keys = usableKeys ((s.documents steps).getLastD first) := by
    rw [keys_run, List.getLastD_eq_getLast?]
    cases (s.documents steps).getLast? <;> rfl
  have hrun : (s.run steps).held.Tended := tended_run htended steps
  refine ⟨hkeys, fun records hmem ↦ exists_served_of_mem rfl hmem, fun n response hn hfails ↦ ?_,
    fun n interval hn hfails ↦ ?_, ?_, fun later hlater ↦ keys_run_close hrun hlater, hrun, ?_⟩
  · rw [Step.after, RemoteKeySet.receive_of_answer? hn, fails_iff.mp hfails]
    rfl
  · rw [← uri_run s steps, ← names_run s steps] at hfails
    rw [run_cons, run_cons, Step.after, Step.after, RemoteKeySet.receive_ask_of_fails hn hfails]
    rfl
  · rw [hkeys, List.getLastD_eq_getLast?]
    cases hlast : (s.documents steps).getLast? with
    | none => exact hne
    | some records => exact usableKeys_ne_nil_of_mem (List.mem_of_getLast? hlast)
  · rw [installed?_run]
    cases (steps.filterMap Step.installs?).getLast? <;> rfl

/-- A published key of an elliptic curve, without coordinates. -/
def bareKey (keyId : String) : KeyRecord where
  kind := "EC"
  keyId := some keyId
  x := some ""
  y := some ""

/-- The pages of a provider that publishes this key.  The document has another member, which is no
text. -/
def publishing (keyId : String) : Network.Pages := fun _ ↦
  let key : Json := .object [("kty", .string "EC"), ("kid", .string keyId), ("x", .string ""),
    ("y", .string "")]
  some ⟨200, some (Text.toBytes "\x7b\"by\":\"" ++ 0xe9 :: Text.toBytes "\",\"keys\":[" ++
    Text.toBytes key.toText ++ Text.toBytes "]\x7d")⟩

/-- The set of keys of that provider, with a first key. -/
def rotating : Session where
  names := Network.Host.plainNames
  pages := publishing "a"
  held := { uri := "http://id.example/keys", keys := [(some "a", .ec [4])] }

/-- The provider publishes a second key, which a refresh brings, and a third one, for which the
refresh asks as well; but it is stopped before it is answered. -/
def rotation : List Step :=
  [.startRefresh 1, .serve (publishing "b"), .ask 0, .receive 0, .serve (publishing "c"), .ask 0,
    .close, .receive 0]

/-- After the rotation the second key is held, and no task runs. -/
theorem kept_of_fetch_rotation :
    RemoteKeySet.fetch rotating.names rotating.pages rotating.held.uri = .ok rotating.held ∧
      (rotating.run rotation).held.keys = [(some "b", .ec [4])] ∧
      ∀ n, ¬(rotating.run rotation).held.Runs n := by
  have hfetch : RemoteKeySet.fetch rotating.names rotating.pages rotating.held.uri =
      .ok rotating.held := by decide +kernel
  obtain ⟨first, -, hkept⟩ := kept_of_fetch hfetch
  have hdocuments : rotating.documents rotation = [[bareKey "b"]] := by decide +kernel
  refine ⟨hfetch, ?_, fun n hruns ↦ ?_⟩
  · rw [(hkept rotation).keys]
    change usableKeys ((rotating.documents rotation).getLastD first) = _
    rw [hdocuments, List.getLastD_cons, List.getLastD_nil]
    decide +kernel
  · have hslot := ((hkept rotation).running n).mp hruns
    have hnone := (hkept rotation).installed
    obtain ⟨t, ht, -⟩ := hruns
    rw [RemoteKeySet.installed?, hslot, Option.bind_some, RemoteKeySet.interval?, ht] at hnone
    cases hnone

end Session

end BearerAuth.Oidc
