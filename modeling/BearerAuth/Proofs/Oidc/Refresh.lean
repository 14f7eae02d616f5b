import BearerAuth.Oidc.KeySet

/-!
# Refreshes of keys

A request for the keys of a provider brings all usable keys of one document (`readKeys_eq_ok_iff`),
or it fails in one of five ways (`fails_iff`).

The tasks that send such requests are known to a set of keys by their handles alone.  Whatever takes
a handle out of the slot also aborts its task, so that no task runs but the one in the slot: this is
the invariant `RemoteKeySet.Tended`, and each operation keeps it.
-/

namespace BearerAuth.Oidc

open Json (Source)

/-! ## Documents -/

/-- The records of the document in a response. -/
def records? (r : Network.Response) : Option (List KeyRecord) :=
  if 200 ≤ r.status ∧ r.status < 300 then (r.body.bind Source.ofBytes?).bind keyRecords? else none

/-- The records of the document at an address. -/
def served? (names : Network.Names) (pages : Network.Pages) (uri : String) :
    Option (List KeyRecord) :=
  (Network.get? names pages uri).bind records?

/-- The usable keys among some records, in their order. -/
def usableKeys (records : List KeyRecord) : Keys := records.filterMap KeyRecord.usable?

/-- The records of the document that a request brings, if there is a usable key among them. -/
def good? (response : Option Network.Response) : Option (List KeyRecord) :=
  (response.bind records?).filter fun records ↦ usableKeys records ≠ []

variable {names : Network.Names} {pages : Network.Pages} {uri : String} {keys : Keys}
  {response : Option Network.Response}

theorem good?_eq_some_iff {records : List KeyRecord} :
    good? response = some records ↔ response.bind records? = some records ∧
      usableKeys records ≠ [] := by
  rw [good?, Option.filter_eq_some_iff]
  simp

theorem loadRecords_eq_ok_iff {records : List KeyRecord} :
    loadRecords records = .ok keys ↔ usableKeys records = keys ∧ keys ≠ [] := by
  rw [loadRecords, usableKeys]
  cases records.filterMap KeyRecord.usable? with
  | nil => simp +contextual [eq_comm]
  | cons key rest =>
    simp only [Except.ok.injEq]
    exact ⟨fun h ↦ ⟨h, by simp [← h]⟩, And.left⟩

/-- Keys are read of a response if it has a document with usable keys, and then all of these. -/
theorem readKeys_eq_ok_iff :
    readKeys response = .ok keys ↔ ∃ records, good? response = some records ∧
      usableKeys records = keys := by
  have hgood : (∃ records, good? response = some records ∧ usableKeys records = keys) ↔
      ∃ records, response.bind records? = some records ∧ usableKeys records = keys ∧ keys ≠ [] := by
    simp only [good?_eq_some_iff]
    constructor
    · rintro ⟨records, ⟨hrecords, hne⟩, rfl⟩
      exact ⟨records, hrecords, rfl, hne⟩
    · rintro ⟨records, hrecords, rfl, hne⟩
      exact ⟨records, ⟨hrecords, hne⟩, rfl⟩
  rw [hgood]
  cases response with
  | none => simp [readKeys]
  | some r =>
    simp only [readKeys, Option.bind_some, records?]
    by_cases hstatus : 200 ≤ r.status ∧ r.status < 300
    · rw [if_neg (not_not_intro hstatus), if_pos hstatus]
      cases (r.body.bind Source.ofBytes?).bind keyRecords? with
      | none => simp
      | some records => simp [loadRecords_eq_ok_iff]
    · simp [hstatus]

/-- Keys are loaded if there is a document with usable keys, and then they are all of these. -/
theorem loadKeys_eq_ok_iff :
    loadKeys names pages uri = .ok keys ↔
      ∃ records, served? names pages uri = some records ∧ usableKeys records = keys ∧
        keys ≠ [] := by
  rw [loadKeys, readKeys_eq_ok_iff]
  simp only [good?_eq_some_iff, served?]
  constructor
  · rintro ⟨records, ⟨hrecords, hne⟩, rfl⟩
    exact ⟨records, hrecords, rfl, hne⟩
  · rintro ⟨records, hrecords, rfl, hne⟩
    exact ⟨records, ⟨hrecords, hne⟩, rfl⟩

/-- The ways in which a request brings no keys. -/
inductive Fails : Option Network.Response → Prop
  /-- It is not sent. -/
  | unsent : Fails none
  /-- The response is no success. -/
  | refused {r : Network.Response} : ¬(200 ≤ r.status ∧ r.status < 300) → Fails (some r)
  /-- The body breaks off. -/
  | unreadable {r : Network.Response} : r.body = none → Fails (some r)
  /-- The body is no document of keys. -/
  | malformed {r : Network.Response} {bytes : List UInt8} : r.body = some bytes →
    (Source.ofBytes? bytes).bind keyRecords? = none → Fails (some r)
  /-- The document has no usable key. -/
  | useless {r : Network.Response} {records : List KeyRecord} : records? r = some records →
    usableKeys records = [] → Fails (some r)

/-- There are no other ways. -/
theorem fails_iff : Fails response ↔ good? response = none := by
  constructor
  · intro h
    cases h with
    | unsent => rfl
    | refused hstatus => simp [good?, records?, hstatus]
    | unreadable hbody => simp [good?, records?, hbody]
    | malformed hbody hparse => simp [good?, records?, hbody, hparse]
    | useless hrecords hnone => simp [good?, hrecords, hnone]
  · intro h
    cases response with
    | none => exact .unsent
    | some r =>
      by_cases hstatus : 200 ≤ r.status ∧ r.status < 300
      · cases hbody : r.body with
        | none => exact .unreadable hbody
        | some bytes =>
          cases hparse : (Source.ofBytes? bytes).bind keyRecords? with
          | none => exact .malformed hbody hparse
          | some records =>
            have hrecords : records? r = some records := by
              rw [records?, if_pos hstatus, hbody, Option.bind_some, hparse]
            refine .useless hrecords (Classical.byContradiction fun hne ↦ ?_)
            have hgood : good? (some r) = some records := good?_eq_some_iff.mpr ⟨hrecords, hne⟩
            rw [h] at hgood
            cases hgood
      · exact .refused hstatus

/-! ## Tasks -/

namespace Task

/-- Whether a task has not been aborted. -/
def Running (t : Task) : Prop := t.phase ≠ .aborted

theorem not_running_abort (t : Task) : ¬t.abort.Running := fun h ↦ h rfl

theorem running_ask {t : Task} : (t.ask response).Running ↔ t.Running := by
  rw [ask]
  split
  · next h => simp [Running, h]
  all_goals rfl

theorem running_settle {t : Task} : t.settle.Running ↔ t.Running := by
  rw [settle]
  split
  · next h => simp [Running, h]
  all_goals rfl

theorem interval_ask (t : Task) : (t.ask response).interval = t.interval := by
  rw [ask]
  split <;> rfl

theorem interval_settle (t : Task) : t.settle.interval = t.interval := by
  rw [settle]
  split <;> rfl

theorem running_of_response? {t : Task} (h : t.response? = some response) : t.Running := by
  intro haborted
  simp [response?, haborted] at h

/-- What a task is answered it was answered before, or has just asked for. -/
theorem response?_ask {t : Task} {r : Option Network.Response}
    (h : (t.ask response).response? = some r) : t.response? = some r ∨ r = response := by
  rw [ask] at h
  split at h
  · exact .inr (Option.some.inj h).symm
  all_goals exact .inl h

theorem response?_settle (t : Task) : t.settle.response? = none := by
  rw [settle]
  split
  · rfl
  · next h => simp [response?, h]
  · next h => simp [response?, h]

end Task

namespace RemoteKeySet

variable {s : RemoteKeySet} {n m : Nat} {f : Task → Task}

/-- Whether a task is running, by its handle. -/
def Runs (s : RemoteKeySet) (n : Nat) : Prop := ∃ t, s.tasks[n]? = some t ∧ t.Running

/-- What a task will be answered, by its handle, if it has asked. -/
def answer? (s : RemoteKeySet) (n : Nat) : Option (Option Network.Response) :=
  s.tasks[n]?.bind Task.response?

/-- The time between two attempts of a task, by its handle. -/
def interval? (s : RemoteKeySet) (n : Nat) : Option Nat := s.tasks[n]?.map Task.interval

/-- The time between two attempts of the refresh that is installed. -/
def installed? (s : RemoteKeySet) : Option Nat := s.slot.bind s.interval?

/-- Whether the tasks that are running are those that the slot has the handle of; so there is at
most one. -/
def Tended (s : RemoteKeySet) : Prop := ∀ n, s.Runs n ↔ s.slot = some n

/-! ### One task in another state -/

theorem getElem?_update : (s.update m f).tasks[n]? =
    if m = n then s.tasks[n]?.map f else s.tasks[n]? := by
  rw [update, List.getElem?_modify]
  split
  · rfl
  · exact Option.map_id'

theorem runs_update (hf : ∀ t, (f t).Running ↔ t.Running) : (s.update m f).Runs n ↔ s.Runs n := by
  rw [Runs, Runs, getElem?_update]
  split
  · cases s.tasks[n]? with
    | none => simp
    | some t => simp [hf]
  · rfl

theorem runs_update_abort : (s.update m .abort).Runs n ↔ s.Runs n ∧ m ≠ n := by
  rw [Runs, Runs, getElem?_update]
  split
  · next h =>
    refine ⟨?_, fun hne ↦ absurd h hne.2⟩
    rintro ⟨t, ht, hrunning⟩
    obtain ⟨t, -, rfl⟩ := Option.map_eq_some_iff.mp ht
    exact absurd hrunning t.not_running_abort
  · next h => exact ⟨fun hruns ↦ ⟨hruns, h⟩, And.left⟩

theorem interval?_update (hf : ∀ t, (f t).interval = t.interval) :
    (s.update m f).interval? = s.interval? := by
  funext n
  rw [interval?, interval?, getElem?_update]
  split
  · rw [Option.map_map]
    exact congrArg (Option.map · _) (funext hf)
  · rfl

/-! ### Starting and stopping -/

theorem lt_length_of_runs (h : s.Runs n) : n < s.tasks.length := by
  obtain ⟨t, ht, -⟩ := h
  exact (List.getElem?_eq_some_iff.mp ht).1

theorem runs_spawn (interval : Nat) :
    (s.spawn interval).Runs n ↔ s.Runs n ∨ n = s.tasks.length := by
  rw [Runs, Runs, spawn]
  rcases Nat.lt_trichotomy n s.tasks.length with h | h | h
  · rw [List.getElem?_append_left h]
    exact ⟨.inl, fun hn ↦ hn.resolve_right (Nat.ne_of_lt h)⟩
  · subst h
    simp [Task.Running]
  · rw [List.getElem?_eq_none (by simpa using Nat.succ_le_of_lt h),
      List.getElem?_eq_none (Nat.le_of_lt h)]
    simp [Nat.ne_of_gt h]

theorem interval?_spawn_length (interval : Nat) :
    (s.spawn interval).interval? s.tasks.length = some (min interval maxInterval) := by
  rw [interval?, spawn, List.getElem?_concat_length]
  rfl

/-- With its handle taken out of the slot a task is stopped. -/
theorem Tended.close (h : s.Tended) : s.close.Tended := by
  intro n
  rw [RemoteKeySet.close]
  cases hslot : s.slot with
  | none => exact h n
  | some handle =>
    have hruns : ({ s with slot := none } : RemoteKeySet).Runs n ↔ some handle = some n :=
      hslot ▸ h n
    rw [runs_update_abort, hruns]
    simp [update]

/-- With its handle replaced in the slot a task is stopped. -/
theorem Tended.startRefresh (h : s.Tended) (interval : Nat) : (s.startRefresh interval).Tended := by
  intro n
  have hstarted : ({ s.spawn interval with slot := some s.tasks.length } : RemoteKeySet).Runs n ↔
      s.slot = some n ∨ n = s.tasks.length := by
    rw [← h n]
    exact runs_spawn interval
  rw [RemoteKeySet.startRefresh]
  cases hslot : s.slot with
  | none => simpa [hslot, eq_comm] using hstarted
  | some previous =>
    have hlt : previous < s.tasks.length := lt_length_of_runs ((h previous).mpr hslot)
    rw [runs_update_abort, hstarted, hslot]
    simp only [update, Option.some.injEq]
    omega

/-- To start a refresh alone brings no keys. -/
theorem keys_startRefresh (s : RemoteKeySet) (interval : Nat) :
    (s.startRefresh interval).keys = s.keys := by
  rw [RemoteKeySet.startRefresh]
  cases s.slot <;> rfl

theorem keys_close (s : RemoteKeySet) : s.close.keys = s.keys := by
  rw [RemoteKeySet.close]
  cases s.slot <;> rfl

theorem installed?_close (s : RemoteKeySet) : s.close.installed? = none := by
  rw [RemoteKeySet.close]
  cases hslot : s.slot with
  | none => rw [installed?, hslot]; rfl
  | some handle => rfl

theorem installed?_startRefresh (s : RemoteKeySet) (interval : Nat) :
    (s.startRefresh interval).installed? = some (min interval maxInterval) := by
  rw [RemoteKeySet.startRefresh]
  cases s.slot with
  | none => exact interval?_spawn_length interval
  | some previous =>
    have hkept := interval?_update (s := { s.spawn interval with slot := some s.tasks.length })
      (m := previous) (f := .abort) fun _ ↦ rfl
    exact (congrFun hkept _).trans (interval?_spawn_length interval)

/-! ### Asking and receiving -/

theorem tended_ask (h : s.Tended) (names : Network.Names) (pages : Network.Pages) (n : Nat) :
    (s.ask names pages n).Tended := fun m ↦ (runs_update fun _ ↦ Task.running_ask).trans (h m)

theorem installed?_ask (names : Network.Names) (pages : Network.Pages) (n : Nat) :
    (s.ask names pages n).installed? = s.installed? := by
  rw [installed?, ask, interval?_update Task.interval_ask]
  rfl

/-- A task that has not asked receives nothing. -/
theorem receive_of_answer?_eq_none (h : s.answer? n = none) : s.receive n = s := by
  rw [answer?] at h
  rw [receive, h]

/-- A task that is answered puts the keys of a good document in place of those that are held. -/
theorem receive_of_answer? (h : s.answer? n = some response) :
    s.receive n = { s.update n .settle with
      keys := ((good? response).map usableKeys).getD s.keys } := by
  rw [answer?] at h
  rw [receive, h]
  cases hgood : good? response with
  | none =>
    cases hread : readKeys response with
    | error e => simp only [hread]; rfl
    | ok keys =>
      obtain ⟨records, hrecords, -⟩ := readKeys_eq_ok_iff.mp hread
      rw [hgood] at hrecords
      cases hrecords
  | some records =>
    simp only [readKeys_eq_ok_iff.mpr ⟨records, hgood, rfl⟩]
    rfl

theorem keys_receive (s : RemoteKeySet) (n : Nat) :
    (s.receive n).keys = (((s.answer? n).bind good?).map usableKeys).getD s.keys := by
  cases h : s.answer? n with
  | none => rw [receive_of_answer?_eq_none h]; rfl
  | some response => rw [receive_of_answer? h]; rfl

theorem uri_receive (s : RemoteKeySet) (n : Nat) : (s.receive n).uri = s.uri := by
  cases h : s.answer? n with
  | none => rw [receive_of_answer?_eq_none h]
  | some response => rw [receive_of_answer? h]; rfl

theorem tended_receive (h : s.Tended) (n : Nat) : (s.receive n).Tended := by
  cases hanswer : s.answer? n with
  | none => rwa [receive_of_answer?_eq_none hanswer]
  | some response =>
    rw [receive_of_answer? hanswer]
    exact fun m ↦ (runs_update fun _ ↦ Task.running_settle).trans (h m)

theorem installed?_receive (s : RemoteKeySet) (n : Nat) :
    (s.receive n).installed? = s.installed? := by
  cases hanswer : s.answer? n with
  | none => rw [receive_of_answer?_eq_none hanswer]
  | some response =>
    rw [receive_of_answer? hanswer]
    exact congrArg s.slot.bind (interval?_update Task.interval_settle)

/-- Only a task that is running is answered. -/
theorem runs_of_answer? (h : s.answer? n = some response) : s.Runs n := by
  obtain ⟨t, ht, hresponse⟩ := Option.bind_eq_some_iff.mp h
  exact ⟨t, ht, Task.running_of_response? hresponse⟩

/-- An attempt as a whole that brings no keys leaves no trace. -/
theorem receive_ask_of_fails {interval : Nat} (hn : s.tasks[n]? = some ⟨interval, .waiting⟩)
    (hfails : Fails (Network.get? names pages s.uri)) : (s.ask names pages n).receive n = s := by
  have hanswer : (s.ask names pages n).answer? n = some (Network.get? names pages s.uri) := by
    rw [answer?, ask, getElem?_update, if_pos rfl, hn]
    rfl
  have htasks : ((s.ask names pages n).update n .settle).tasks = s.tasks := by
    refine List.ext_getElem? fun m ↦ ?_
    rw [getElem?_update, ask, getElem?_update]
    split
    · next h =>
      rw [← h, hn]
      rfl
    · rfl
  rw [receive_of_answer? hanswer, fails_iff.mp hfails]
  exact congrArg (fun tasks ↦ { s with tasks }) htasks

/-! ### What tasks have asked for -/

theorem response?_of_answer?_update (h : (s.update m f).answer? n = some response) :
    s.answer? n = some response ∨ ∃ t, s.tasks[n]? = some t ∧ (f t).response? = some response := by
  rw [answer?, getElem?_update] at h
  split at h
  · obtain ⟨t, ht, hresponse⟩ := Option.bind_eq_some_iff.mp h
    obtain ⟨t, hn, rfl⟩ := Option.map_eq_some_iff.mp ht
    exact .inr ⟨t, hn, hresponse⟩
  · exact .inl h

/-- What a task had asked for when it was aborted is not brought any more. -/
theorem answer?_update_abort (h : (s.update m .abort).answer? n = some response) :
    s.answer? n = some response := by
  obtain h | ⟨t, -, h⟩ := response?_of_answer?_update h
  · exact h
  · exact absurd (Task.running_of_response? h) t.not_running_abort

theorem answer?_spawn {interval : Nat} (h : (s.spawn interval).answer? n = some response) :
    s.answer? n = some response := by
  rw [answer?, spawn, List.getElem?_append] at h
  split at h
  · exact h
  · obtain ⟨t, ht, hresponse⟩ := Option.bind_eq_some_iff.mp h
    cases List.mem_singleton.mp (List.mem_of_getElem? ht)
    cases hresponse

theorem answer?_close (h : s.close.answer? n = some response) : s.answer? n = some response := by
  rw [RemoteKeySet.close] at h
  split at h
  · exact answer?_update_abort (s := { s with slot := none }) h
  · exact h

theorem answer?_startRefresh {interval : Nat}
    (h : (s.startRefresh interval).answer? n = some response) : s.answer? n = some response := by
  rw [RemoteKeySet.startRefresh] at h
  split at h
  · exact answer?_spawn (answer?_update_abort
      (s := { s.spawn interval with slot := some s.tasks.length }) h)
  · exact answer?_spawn h

theorem answer?_ask (h : (s.ask names pages m).answer? n = some response) :
    s.answer? n = some response ∨ response = Network.get? names pages s.uri := by
  obtain h | ⟨t, ht, h⟩ := response?_of_answer?_update h
  · exact .inl h
  · refine (Task.response?_ask h).imp_left fun hresponse ↦ ?_
    rw [answer?, ht]
    exact hresponse

theorem answer?_receive (h : (s.receive m).answer? n = some response) :
    s.answer? n = some response := by
  cases hanswer : s.answer? m with
  | none => rwa [receive_of_answer?_eq_none hanswer] at h
  | some r =>
    rw [receive_of_answer? hanswer] at h
    obtain h | ⟨t, -, h⟩ := response?_of_answer?_update h
    · exact h
    · rw [t.response?_settle] at h
      cases h

end RemoteKeySet

end BearerAuth.Oidc
