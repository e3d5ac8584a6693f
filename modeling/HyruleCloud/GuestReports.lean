import HyruleCloud.GuestReceipts

/-!
The guest helper, providers/guest_observer.py: what it classifies, the receipt that it saves before
it sends anything, and what the controller answers. The helper may be stopped between any two steps;
`os.replace` leaves the old receipt or the new one.
-/

namespace HyruleCloud.GuestReports

/-- A value that `json.loads` returns; a dictionary has each key once. -/
inductive Json where
  | null
  | truth (value : Bool)
  | number (isZero : Bool)
  | text (value : String)
  | list (values : List Json)
  | dict (entries : List (String × Json))

def Json.truthy : Json → Bool
  | .null => false
  | .truth value => value
  | .number isZero => !isZero
  | .text value => value ≠ ""
  | .list values => !values.isEmpty
  | .dict entries => !entries.isEmpty

def isText (value : Option Json) (expected : String) : Bool :=
  match value with
  | some (.text text) => text = expected
  | _ => false

structure Payload where
  outcome : String
  stage : String
  exitCode : Int

/-- What one pass of the helper sees; no output where it is too large, or no JSON. `running` says
whether cloud-init is still at work, whatever its status command answers. -/
structure Observation where
  running : Bool
  returncode : Int
  output : Option Json
  setupExit : Option Int

def classify (setupRequired : Bool) (seen : Observation) : Option Payload :=
  if seen.setupExit.any (· ≠ 0) then
    some ⟨"failed", "setup_script", min 255 (max 1 (seen.setupExit.getD 0))⟩
  else match seen.output with
    | some (.dict status) =>
      if isText (status.lookup "status") "running" then none
      else if seen.returncode ≠ 0 || !isText (status.lookup "status") "done" ||
          !isText (status.lookup "extended_status") "done" ||
          (status.lookup "errors").any Json.truthy ||
          (status.lookup "recoverable_errors").any Json.truthy then
        some ⟨"failed", "cloud_init", min 255 (max 1 seen.returncode)⟩
      else if setupRequired && seen.setupExit ≠ some 0 then some ⟨"failed", "setup_script", 1⟩
      else some ⟨"succeeded", "cloud_init", 0⟩
    | _ => some ⟨"failed", "cloud_init", 1⟩

inductive Phase where
  | stopped
  | looping
  | classified (payload : Payload)
  | sending (payload : Payload)
  | acknowledged
  | marked

/-- The files of the helper, where it is in `main`, and what it has sent. -/
structure Helper where
  setupRequired : Bool
  receipt : Option Payload := none
  delivered : Bool := false
  configured : Bool := true
  phase : Phase := .stopped
  sent : List Payload := []

inductive Reply where
  | acknowledged
  | refused
  | failed

/-- `look` has no observation where the status or the exit code of the setup script cannot be
read; `stop` is a crash, or the end of the window for retries. -/
inductive Step where
  | start
  | stop
  | look (seen : Option Observation)
  | save
  | send (reply : Reply)
  | mark
  | unlink

/-- `main`, one step at a time. -/
def step (helper : Helper) (step : Step) : Helper :=
  match step, helper.phase with
  | .start, .stopped =>
    if helper.delivered || !helper.configured then helper else { helper with phase := .looping }
  | .stop, _ => { helper with phase := .stopped }
  | .look seen, .looping =>
    match helper.receipt with
    | some payload => { helper with phase := .sending payload }
    | none => match seen.bind (classify helper.setupRequired) with
      | none => helper
      | some payload => { helper with phase := .classified payload }
  | .save, .classified payload =>
    { helper with receipt := some payload, phase := .sending payload }
  | .send reply, .sending payload => { helper with
      sent := payload :: helper.sent
      phase := match reply with
        | .acknowledged => .acknowledged
        | .refused => .stopped
        | .failed => .looping }
  | .mark, .acknowledged => { helper with delivered := true, phase := .marked }
  | .unlink, .marked => { helper with configured := false, phase := .stopped }
  | _, _ => helper

def run (setupRequired : Bool) (steps : List Step) : Helper :=
  steps.foldl step { setupRequired := setupRequired }

/-! The controller. -/

/-- `GuestResult.model_validate_json` on the body of a report. -/
def Payload.validate (payload : Payload) : Option GuestResult := do
  let outcome ← match payload.outcome with
    | "succeeded" => some ReportOutcome.succeeded
    | "failed" => some .failed
    | _ => none
  let stage ← match payload.stage with
    | "cloud_init" => some ReportStage.cloudInit
    | "setup_script" => some .setupScript
    | _ => none
  if payload.exitCode < 0 then none
  else GuestResult.validate outcome stage payload.exitCode.toNat

/-- `receive_guest_result`, with the guest's own credential. -/
def receive (row : ReceiptRow) (report : Payload × Time) : Except Err ReceiptRow :=
  match report.1.validate with
  | none => .error (.http 400)
  | some result => acceptedReceipt (some row) row.generation row.token result report.2

/-- The answers to reports that arrive one after the other. -/
def answers (row : ReceiptRow) : List (Payload × Time) → List (Except Err ReceiptRow)
  | [] => []
  | report :: rest => receive row report :: answers ((receive row report).toOption.getD row) rest

/-! What is classified. -/

section
variable {setupRequired : Bool} {seen : Observation} {payload : Payload}

/-- The status is that of a clean completion, and so is the setup script's. -/
def Clean (setupRequired : Bool) (seen : Observation) : Prop :=
  seen.returncode = 0 ∧ (setupRequired = true → seen.setupExit = some 0) ∧
    ∃ status, seen.output = some (.dict status) ∧ isText (status.lookup "status") "done" ∧
      isText (status.lookup "extended_status") "done" ∧
      (status.lookup "errors").any Json.truthy = false ∧
      (status.lookup "recoverable_errors").any Json.truthy = false

def SaysRunning (seen : Observation) : Prop :=
  ∃ status, seen.output = some (.dict status) ∧ isText (status.lookup "status") "running"

/-- What a report may say of what was seen. -/
structure Justified (setupRequired : Bool) (seen : Observation) (payload : Payload) : Prop where
  valid : ∃ result, payload.validate = some result
  success : payload.outcome = "succeeded" → Clean setupRequired seen
  running : SaysRunning seen → payload.outcome = "failed" ∧ payload.stage = "setup_script" ∧
    seen.setupExit.any (· ≠ 0)

theorem failed_valid {stage : String} {code : Int} (known : stage = "cloud_init" ∨
    stage = "setup_script") (least : 1 ≤ code) (most : code ≤ 255) :
    ∃ result, (⟨"failed", stage, code⟩ : Payload).validate = some result := by
  have bounded : code.toNat ≤ 255 ∧ code.toNat ≠ 0 := by omega
  rcases known with rfl | rfl
  all_goals
    simp only [Payload.validate, GuestResult.validate, Option.bind_eq_bind, Option.bind_some]
    rw [if_neg (by omega), dif_pos ⟨bounded.1, nofun, fun _ => bounded.2⟩]
    exact ⟨_, rfl⟩

theorem clamped (code : Int) : 1 ≤ min 255 (max 1 code) ∧ min 255 (max 1 code) ≤ 255 := by omega

theorem unsuccessful : "failed" ≠ "succeeded" := by decide

theorem classify_justified (classified : classify setupRequired seen = some payload) :
    Justified setupRequired seen payload := by
  unfold classify at classified
  split at classified
  · rename_i failed
    cases classified
    exact ⟨failed_valid (Or.inr rfl) (clamped _).1 (clamped _).2,
      fun done => absurd done unsuccessful, fun _ => ⟨rfl, rfl, failed⟩⟩
  split at classified
  · rename_i status parsed
    split at classified
    · cases classified
    rename_i done
    have idle : ¬ SaysRunning seen := by
      rintro ⟨other, same, runs⟩
      rw [parsed] at same
      cases same
      exact done runs
    split at classified
    · cases classified
      exact ⟨failed_valid (Or.inl rfl) (clamped _).1 (clamped _).2,
        fun done => absurd done unsuccessful, fun runs => absurd runs idle⟩
    rename_i clean
    split at classified
    · cases classified
      exact ⟨failed_valid (Or.inr rfl) le_rfl (by decide),
        fun done => absurd done unsuccessful, fun runs => absurd runs idle⟩
    · rename_i script
      cases classified
      simp only [ne_eq, decide_not, Bool.or_eq_true, Bool.not_eq_true', decide_eq_false_iff_not,
        not_or, not_not, Bool.not_eq_true, Bool.not_eq_false] at clean
      refine ⟨⟨_, rfl⟩, fun _ => ⟨clean.1.1.1.1, ?_, status, parsed, clean.1.1.1.2, clean.1.1.2,
        clean.1.2, clean.2⟩, fun runs => absurd runs idle⟩
      intro required
      simpa [required] using script
  · rename_i unread
    cases classified
    refine ⟨failed_valid (Or.inl rfl) le_rfl (by decide), fun done => absurd done unsuccessful, ?_⟩
    rintro ⟨status, parsed, -⟩
    exact absurd parsed (unread status)

end

/-! What is sent. -/

section
variable {setupRequired : Bool} {Seen : Payload → Prop} {helper : Helper}

/-- All that is sent is the receipt, and the receipt was classified. -/
structure Sound (setupRequired : Bool) (Seen : Payload → Prop) (helper : Helper) : Prop where
  config : helper.setupRequired = setupRequired
  receipt : ∀ payload, helper.receipt = some payload → Seen payload
  sent : ∀ payload ∈ helper.sent, helper.receipt = some payload
  fresh : ∀ payload, helper.phase = .classified payload → helper.receipt = none ∧ Seen payload
  saved : ∀ payload, helper.phase = .sending payload → helper.receipt = some payload

theorem sound_moved (sound : Sound setupRequired Seen helper) {next : Helper}
    (config : next.setupRequired = helper.setupRequired) (receipt : next.receipt = helper.receipt)
    (sent : next.sent = helper.sent) (fresh : ∀ payload, next.phase ≠ .classified payload)
    (saved : ∀ payload, next.phase = .sending payload → helper.receipt = some payload) :
    Sound setupRequired Seen next where
  config := config.trans sound.config
  receipt := receipt ▸ sound.receipt
  sent := sent ▸ receipt ▸ sound.sent
  fresh payload is := absurd is (fresh payload)
  saved payload is := receipt.trans (saved payload is)

theorem step_sound (sound : Sound setupRequired Seen helper) (one : Step)
    (seen : ∀ seen payload, one = .look (some seen) →
      classify setupRequired seen = some payload → Seen payload) :
    Sound setupRequired Seen (step helper one) := by
  unfold step
  split
  · split
    · exact sound
    · exact sound_moved sound rfl rfl rfl nofun nofun
  · exact sound_moved sound rfl rfl rfl nofun nofun
  · split
    · rename_i payload stored
      refine sound_moved sound rfl rfl rfl nofun ?_
      rintro _ ⟨⟩
      exact stored
    rename_i observed _ missing
    split
    · exact sound
    · rename_i payload classified
      obtain ⟨one, rfl, reported⟩ := Option.bind_eq_some_iff.mp classified
      rw [sound.config] at reported
      refine ⟨sound.config, sound.receipt, sound.sent, ?_, nofun⟩
      rintro _ ⟨⟩
      exact ⟨missing, seen one payload rfl reported⟩
  · rename_i payload pending
    obtain ⟨missing, justified⟩ := sound.fresh payload pending
    refine ⟨sound.config, ?_, ?_, nofun, ?_⟩
    · rintro _ ⟨⟩
      exact justified
    · intro earlier among
      have stored := sound.sent earlier among
      rw [missing] at stored
      cases stored
    · rintro _ ⟨⟩
      rfl
  · rename_i reply payload pending
    have stored := sound.saved payload pending
    refine ⟨sound.config, sound.receipt, ?_, ?_, ?_⟩
    · intro other among
      rcases List.mem_cons.mp among with rfl | earlier
      · exact stored
      · exact sound.sent other earlier
    · cases reply <;> exact nofun
    · cases reply <;> exact nofun
  · exact sound_moved sound rfl rfl rfl nofun nofun
  · exact sound_moved sound rfl rfl rfl nofun nofun
  · exact sound

theorem run_sound (setupRequired : Bool) (steps : List Step) :
    Sound setupRequired (fun payload => ∃ seen, .look (some seen) ∈ steps ∧
      classify setupRequired seen = some payload) (run setupRequired steps) := by
  have each : ∀ rest ⊆ steps, ∀ helper, Sound setupRequired (fun payload => ∃ seen,
      .look (some seen) ∈ steps ∧ classify setupRequired seen = some payload) helper →
      Sound setupRequired (fun payload => ∃ seen, .look (some seen) ∈ steps ∧
        classify setupRequired seen = some payload) (rest.foldl step helper) := by
    intro rest among
    induction rest with
    | nil => exact fun _ sound => sound
    | cons one rest ih =>
      obtain ⟨here, later⟩ := List.cons_subset.mp among
      exact fun helper sound => ih later _ (step_sound sound one fun seen payload is classified =>
        ⟨seen, is ▸ here, classified⟩)
  exact each steps (List.Subset.refl _) _ ⟨rfl, nofun, nofun, nofun, nofun⟩

end

theorem answers_agree {payload : Payload} {result : GuestResult}
    (valid : payload.validate = some result) (reports : List (Payload × Time))
    (same : ∀ report ∈ reports, report.1 = payload) (row : ReceiptRow)
    (own : ∀ report, row.report = some report → report.result = result) :
    ∀ answer ∈ answers row reports, answer ≠ .error (.http 400) ∧ answer ≠ .error (.http 409) := by
  induction reports generalizing row with
  | nil => exact fun _ among => by cases among
  | cons report rest ih =>
    have answered : receive row report = acceptedReceipt (some row) row.generation row.token result
        report.2 := by
      rw [receive, same report List.mem_cons_self, valid]
    rw [answers, answered]
    intro answer among
    rcases List.mem_cons.mp among with rfl | later
    · unfold acceptedReceipt
      dsimp only
      rw [if_neg (by simp)]
      split
      · rename_i earlier stored
        rw [own earlier stored, if_neg (not_not.mpr rfl)]
        exact ⟨nofun, nofun⟩
      · split
        · exact ⟨by decide, by decide⟩
        · exact ⟨nofun, nofun⟩
    · refine ih (fun other listed => same other (List.mem_cons_of_mem _ listed)) _ ?_ answer later
      cases accepted : acceptedReceipt (some row) row.generation row.token result report.2 with
      | error => exact own
      | ok next =>
        obtain ⟨before, found, -, -, ⟨rfl, -⟩ | ⟨rfl, -⟩⟩ := accepted_cases accepted
        · cases found
          exact own
        · rintro _ ⟨⟩
          rfl

/-- What holds of the reports of one guest. -/
structure ReportsSound (setupRequired : Bool) (steps : List Step) (sent : List Payload) : Prop where
  agree : ∀ one ∈ sent, ∀ other ∈ sent, one = other
  justified : ∀ payload ∈ sent, ∃ seen, .look (some seen) ∈ steps ∧ Justified setupRequired seen payload
  accepted : ∀ (row : ReceiptRow) (reports : List (Payload × Time)), row.report = none →
    (∀ report ∈ reports, report.1 ∈ sent) → ∀ answer ∈ answers row reports,
      answer ≠ .error (.http 400) ∧ answer ≠ .error (.http 409)

end HyruleCloud.GuestReports
