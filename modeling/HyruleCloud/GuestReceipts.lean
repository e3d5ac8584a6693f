import HyruleCloud.Provisioning

/-!
services/guest_result.py: the receipt under which a guest reports the end of its
first boot. A receipt is prepared for one generation with a token that only the
guest of that generation gets, and the first report it accepts stands. Digests
of tokens are compared as the tokens themselves.
-/

namespace HyruleCloud

abbrev Secret := Nat

inductive ReportOutcome where
  | succeeded | failed
  deriving DecidableEq

inductive ReportStage where
  | cloudInit | setupScript
  deriving DecidableEq

/-- `GuestResult`, with `consistent_result` in the type. -/
structure GuestResult where
  outcome : ReportOutcome
  stage : ReportStage
  exitCode : Nat
  bounded : exitCode ≤ 255
  success : outcome = .succeeded → stage = .cloudInit ∧ exitCode = 0
  failure : outcome = .failed → exitCode ≠ 0
  deriving DecidableEq

/-- `GuestResult.model_validate_json` on the three fields. -/
def GuestResult.validate (outcome : ReportOutcome) (stage : ReportStage) (exitCode : Nat) :
    Option GuestResult :=
  if valid : exitCode ≤ 255 ∧ (outcome = .succeeded → stage = .cloudInit ∧ exitCode = 0) ∧
      (outcome = .failed → exitCode ≠ 0) then
    some ⟨outcome, stage, exitCode, valid.1, valid.2.1, valid.2.2⟩
  else none

/-- `outcome`, `stage`, `exit_code` and `received_at` are set together. -/
structure Report where
  result : GuestResult
  receivedAt : Time
  deriving DecidableEq

/-- `VMGuestResultRow` -/
structure ReceiptRow where
  generation : Generation
  token : Secret
  deadline : Time
  report : Option Report := none
  deriving DecidableEq

def ReceiptRow.outcome (row : ReceiptRow) : Option ReportOutcome :=
  row.report.map (·.result.outcome)

/-- The checks and the row of `prepare_guest_result`. -/
def preparedReceipt (status : VMStatus) (uuid : Option Uuid) (generation : Generation)
    (token : Secret) (deadline now : Time) : Except Err ReceiptRow :=
  if status ≠ .provisioning ∨ uuid.isSome then .error (.http 409)
  else if deadline ≤ now then .error (.http 410)
  else .ok { generation := generation, token := token, deadline := deadline }

/-- `accept_guest_result`; a repeated report is accepted beyond the deadline. -/
def acceptedReceipt (found : Option ReceiptRow) (generation : Generation) (token : Secret)
    (result : GuestResult) (observed : Time) : Except Err ReceiptRow :=
  match found with
  | none => .error (.http 404)
  | some row =>
    if row.generation ≠ generation ∨ row.token ≠ token then .error (.http 404)
    else match row.report with
      | some report => if report.result ≠ result then .error (.http 409) else .ok row
      | none =>
        if row.deadline < observed then .error (.http 410)
        else .ok { row with report := some ⟨result, observed⟩ }

/-- The receipt of `renew_provisioning_report_deadline`. -/
def renewedReceipt (row : ReceiptRow) (deadline : Time) : ReceiptRow :=
  match row.report with
  | some _ => row
  | none => { row with deadline := deadline }

/-- The end of `_poll_guest_result`: `none` once the guest has succeeded, else the
time that remains. -/
def pollVerdict (found : Option ReceiptRow) (generation : Generation) (now : Time) :
    Except Err (Option Time) :=
  match found with
  | none => .error (.provisioningFailed "guest_report")
  | some row =>
    if row.generation ≠ generation then .error .generationChanged
    else match row.report with
      | some report => match report.result.outcome, report.result.stage with
          | .succeeded, _ => .ok none
          | .failed, .setupScript => .error (.provisioningFailed "guest_setup")
          | .failed, .cloudInit => .error (.provisioningFailed "guest_init")
      | none =>
        if row.deadline ≤ now then .error (.provisioningFailed "guest_report")
        else .ok (some (row.deadline - now))

theorem accepted_cases {found : Option ReceiptRow} {generation : Generation} {token : Secret}
    {result : GuestResult} {observed : Time} {next : ReceiptRow}
    (accepted : acceptedReceipt found generation token result observed = .ok next) :
    ∃ row, found = some row ∧ row.generation = generation ∧ row.token = token ∧
      (next = row ∧ row.report.map (·.result) = some result ∨
        next = { row with report := some ⟨result, observed⟩ } ∧ row.report = none ∧
          observed ≤ row.deadline) := by
  cases found with
  | none => cases accepted
  | some row =>
    simp only [acceptedReceipt] at accepted
    split at accepted
    · cases accepted
    rename_i identified
    simp only [not_or, not_not] at identified
    refine ⟨row, rfl, identified.1, identified.2, ?_⟩
    split at accepted
    · rename_i report earlier
      split at accepted
      · cases accepted
      · rename_i same
        cases accepted
        exact Or.inl ⟨rfl, by simpa [earlier] using same⟩
    · rename_i unreported
      split at accepted
      · cases accepted
      · rename_i timely
        cases accepted
        exact Or.inr ⟨rfl, unreported, Nat.le_of_not_lt timely⟩

theorem late_refused (row : ReceiptRow) (generation : Generation) (token : Secret)
    (result : GuestResult) (observed : Time) (unreported : row.report = none)
    (late : row.deadline < observed) (next : ReceiptRow) :
    acceptedReceipt (some row) generation token result observed ≠ .ok next := by
  intro accepted
  obtain ⟨found, same, _, _, kept | ⟨_, _, timely⟩⟩ := accepted_cases accepted
  · cases same
    simp [unreported] at kept
  · cases same
    exact absurd timely (Nat.not_le.mpr late)

end HyruleCloud
