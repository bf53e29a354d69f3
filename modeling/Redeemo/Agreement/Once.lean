import Redeemo.Agreement.Signing

/-! An agreement is signed once, whatever the lanes.

    Before a transaction commits it has written the status and the contract, so it holds both rows. Its first statement
    has found the merchant not SIGNED or without a contract, and what it holds does not change under it: so no other
    call has signed when it commits. -/

namespace Redeemo.Agreements
open Bytes Fallible ReadCommitted Runs

variable {w : World} {calls : ℕ → Call} {call : Call} {i j m : ℕ} {s s' : Store} {g : Signing} {t t' : Inserted}
  {stmt : Statement} {done rest : List Statement}

/-! ### What the checks let through -/

/-- The record and the contract of a signing with evidence. -/
structure Evidence (w : World) (i : ℕ) (call : Call) (upload : Upload) (record : MerchantAgreementRecord)
    (contract : MerchantContract) : Prop where
  version : record.agreementVersion = contract.tcVersion
  preimage : computeContentHash w.toRuntime record.reviewedBody = record.reviewedContentHash
  echoed : record.reviewedContentHash = call.echoedHash
  key : record.pdfKey = upload.key
  pdf : w.sha256 upload.body = record.pdfHash
  minted : upload.key.minted = i

inductive Drawn (w : World) (i : ℕ) (call : Call) : Signing → Prop
  | assisted {upload record contract} (actorAdminId : String) (h : Evidence w i call upload record contract) :
    Drawn w i call (assistedSigning upload record contract actorAdminId)
  | selfServe {upload record contract} (adminId : ℕ) (ctx : RequestContext)
    (h : Evidence w i call upload record contract) :
    Drawn w i call (selfServeSigning upload record contract adminId ctx)
  | legacy (merchantId adminId : ℕ) (ctx : RequestContext) (contract : MerchantContract) :
    Drawn w i call (legacySigning merchantId adminId ctx contract)

theorem reviewedFor_ok {agreement : AgreementVersion} {method : AgreementSignMethod} {merchant : MerchantRow}
    {name role echo : String} {r : ReviewedBodyResult}
    (h : reviewedFor w agreement method merchant name role echo = .ok r) :
    computeContentHash w.toRuntime r.reviewedBody = r.reviewedContentHash ∧ r.reviewedContentHash = echo := by
  obtain ⟨r', hr, h⟩ := bind_ok_iff.mp h
  obtain ⟨_, hecho, h⟩ := bind_ok_iff.mp h
  cases h
  have hne := rejectIf_eq_ok.mp hecho
  refine ⟨(reviewedContentHash_eq hr).symm, ?_⟩
  by_contra hn
  exact hne (.inr (Ne.symm hn))

theorem drawn_signAgreementInPerson {merchants : ℕ → Option MerchantRow} {env : Env}
    {input : SignAgreementInPersonInput} {ctx : RequestContext} {signedAt : ℤ}
    (h : signAgreementInPerson w i merchants env input ctx signedAt = .ok g) :
    Drawn w i (.signAgreementInPerson env input ctx signedAt) g := by
  unfold signAgreementInPerson at h
  simp only [bind_ok_iff] at h
  obtain ⟨_, -, _, -, _, -, _, -, witness, -, _, -, merchant, -, reviewed, hreviewed, h⟩ := h
  cases h
  obtain ⟨hpre, hecho⟩ := reviewedFor_ok hreviewed
  exact .assisted _ ⟨rfl, hpre, hecho, rfl, rfl, rfl⟩

theorem drawn_acceptContract {merchants : ℕ → Option MerchantRow} {env : Env} {adminId : ℕ} {version : String}
    {ctx : RequestContext} {opts : AcceptOptions} {signedAt : ℤ}
    (h : acceptContract w i merchants env adminId version ctx opts signedAt = .ok g) :
    Drawn w i (.acceptContract env adminId version ctx opts signedAt) g := by
  unfold acceptContract at h
  simp only [bind_ok_iff] at h
  obtain ⟨merchantId, -, merchant, -, _, -, h⟩ := h
  split_ifs at h with hlegacy
  · cases h
    exact .legacy ..
  · unfold acceptWithEvidence at h
    simp only [bind_ok_iff] at h
    obtain ⟨_, -, _, -, reviewed, hreviewed, _, -, h⟩ := h
    cases h
    obtain ⟨hpre, hecho⟩ := reviewedFor_ok hreviewed
    exact .selfServe _ _ ⟨rfl, hpre, hecho, rfl, rfl, rfl⟩

theorem drawn_of_check {merchants : ℕ → Option MerchantRow} (h : check w i merchants call = .ok g) :
    Drawn w i call g := by
  cases call with
  | signAgreementInPerson env input ctx signedAt => exact drawn_signAgreementInPerson h
  | acceptContract env adminId version ctx opts signedAt => exact drawn_acceptContract h

/-! ### What a transaction makes of a merchant's rows -/

/-- What the tables hold of one merchant. -/
structure Rows where
  merchant : Option MerchantRow
  contract : Option MerchantContract
  records : List MerchantAgreementRecord
  audits : List AuditLog

def Store.rowsOf (s : Store) (m : ℕ) : Rows where
  merchant := s.merchants.rows m
  contract := s.contracts.rows m
  records := s.records.filter fun r => r.merchantId = m
  audits := s.audits.filter fun a => a.entityId = m

def Statement.onMerchant : Statement → Option (Option MerchantRow → Option MerchantRow)
  | .flip signedAt => some (Option.map (MerchantRow.sign signedAt))
  | .updateMerchant signedAt => some (Option.map (MerchantRow.sign signedAt))
  | _ => none

def Statement.onContract : Statement → Option (Option MerchantContract → Option MerchantContract)
  | .createContract contract => some fun _ => some contract
  | .upsertContract contract => some fun old => some (contract.upsert old)
  | _ => none

def Statement.record? : Statement → Option MerchantAgreementRecord
  | .createRecord record => some record
  | _ => none

def Statement.audit? : Statement → Option AuditLog
  | .writeAuditLogTx audit => some audit
  | _ => none

/-- A sequence of writes to one row. -/
def writes {σ : Type*} (fs : List (σ → σ)) (x : σ) : σ := fs.foldl (fun x f => f x) x

/-- The rows once the transaction has committed. -/
def Signing.apply (g : Signing) (r : Rows) : Rows where
  merchant := writes (g.transaction.filterMap Statement.onMerchant) r.merchant
  contract := writes (g.transaction.filterMap Statement.onContract) r.contract
  records := r.records ++ g.transaction.filterMap Statement.record?
  audits := r.audits ++ g.transaction.filterMap Statement.audit?

/-- What a transaction holds after a sequence of writes, if there is one. -/
def made {σ : Type*} : List (σ → σ) → Option (σ → σ)
  | [] => none
  | f :: fs => some (writes (f :: fs))

theorem writes_concat {σ : Type*} {fs : List (σ → σ)} {f : σ → σ} : writes (fs ++ [f]) = f ∘ writes fs := by
  funext x
  rw [writes, List.foldl_append]
  rfl

theorem made_getD {σ : Type*} {fs : List (σ → σ)} : (made fs).getD id = writes fs := by
  cases fs <;> rfl

theorem made_concat {σ : Type*} {fs : List (σ → σ)} {f : σ → σ} : made (fs ++ [f]) = some (f ∘ (made fs).getD id) := by
  rw [made_getD, ← writes_concat]
  cases fs <;> rfl

/-- On one row of a table. -/
def onRow {σ : Type*} (m : ℕ) (fs : List (σ → σ)) : ℕ → Option (σ → σ) := Function.update (fun _ => none) m (made fs)

theorem onRow_self {σ : Type*} {fs : List (σ → σ)} : onRow m fs m = made fs := Function.update_self ..

theorem onRow_of_ne {σ : Type*} {fs : List (σ → σ)} {l : ℕ} (h : l ≠ m) : onRow m fs l = none :=
  Function.update_of_ne h ..

theorem onRow_nil {σ : Type*} : onRow m ([] : List (σ → σ)) = fun _ => none := Function.update_eq_self ..

/-! ### The invariant of a call -/

/-- What the first statement has found. -/
def Statement.Found (merchant : Option MerchantRow) (contract : Option MerchantContract) : Statement → Prop
  | .flip _ => NotSigned merchant
  | .createContract _ => contract = none
  | _ => True

/-- A transaction with `done` behind it. -/
structure Running (i m : ℕ) (s : Store) (t : Inserted) (done : List Statement) : Prop where
  merchants : s.merchants.Holds i (onRow m (done.filterMap Statement.onMerchant))
  contracts : s.contracts.Holds i (onRow m (done.filterMap Statement.onContract))
  records : t.records = done.filterMap Statement.record?
  audits : t.audits = done.filterMap Statement.audit?
  found : ∀ stmt ∈ done.head?, stmt.Found (s.merchants.rows m) (s.contracts.rows m)

/-- Call `i` holds no row. -/
structure Idle (i : ℕ) (s : Store) : Prop where
  merchants : s.merchants.Holds i fun _ => none
  contracts : s.contracts.Holds i fun _ => none

/-- Past its checks, the call does what they have let through. -/
def Phase.signing : Phase → Option Signing
  | .checked g | .running g _ _ | .undone g _ | .returned g => some g
  | .start | .failed _ _ => none

def Phase.locks (i : ℕ) (s : Store) : Phase → Prop
  | .running g t rest => ∃ done, g.transaction = done ++ rest ∧ Running i g.merchantId s t done
  | _ => Idle i s

/-- The PDF that the call has stored. -/
def Phase.stored : Phase → Option Upload
  | .running g _ _ | .undone g _ | .returned g => g.upload
  | _ => none

/-- The keys that call `i` mints. -/
def Holds (i : ℕ) (s : Store) (upload : Option Upload) : Prop :=
  ∀ key, key.minted = i → s.objects key = (upload.filter fun u => u.key = key).map Upload.body

structure Local (w : World) (calls : ℕ → Call) (i : ℕ) (s : Store) (ph : Phase) : Prop where
  ledger : ∀ g, (i, g) ∈ s.signings ↔ ph = .returned g
  drawn : ∀ g ∈ ph.signing, ∃ merchants, check w i merchants (calls i) = .ok g
  locks : ph.locks i s
  bucket : (∀ e, ph ≠ .failed e true) → Holds i s ph.stored

/-! ### One statement -/

/-- What one more statement does: it leaves the committed rows, and what it has found holds. -/
structure Executed (i m : ℕ) (s s' : Store) (t' : Inserted) (done : List Statement) : Prop where
  merchants : s.merchants.Moves i s'.merchants
  contracts : s.contracts.Moves i s'.contracts
  merchantRows : s'.merchants.rows = s.merchants.rows
  contractRows : s'.contracts.rows = s.contracts.rows
  rest : s' = { s with merchants := s'.merchants, contracts := s'.contracts }
  running : Running i m s' t' done

theorem onRow_concat {σ : Type*} {fs : List (σ → σ)} {f : σ → σ} :
    onRow m (fs ++ [f]) m = some (f ∘ (onRow m fs m).getD id) := by
  rw [onRow_self, onRow_self, made_concat]

theorem onRow_concat_of_ne {σ : Type*} {fs : List (σ → σ)} {f : σ → σ} (l : ℕ) (h : l ≠ m) :
    onRow m (fs ++ [f]) l = onRow m fs l := by
  rw [onRow_of_ne h, onRow_of_ne h]

/-- The first statement is the new one, or has been before. -/
theorem found_concat {merchant : Option MerchantRow} {contract : Option MerchantContract}
    (hdone : ∀ stmt ∈ done.head?, stmt.Found merchant contract) (hnew : done = [] → stmt.Found merchant contract) :
    ∀ stmt' ∈ (done ++ [stmt]).head?, stmt'.Found merchant contract := by
  cases done with
  | nil =>
    intro stmt' hs
    cases hs
    exact hnew rfl
  | cons a as => exact hdone

/-- A statement that writes the merchant's row. -/
theorem executed_merchant {f : Option MerchantRow → Option MerchantRow} {ms : Table ℕ ℕ MerchantRow}
    (hr : Running i m s t done) (hw : s.merchants.write i m f = some ms) (hf : stmt.onMerchant = some f)
    (hc : stmt.onContract = none) (hrec : stmt.record? = none) (haud : stmt.audit? = none)
    (hfound : done = [] → stmt.Found (s.merchants.rows m) (s.contracts.rows m)) :
    Executed i m s { s with merchants := ms } t (done ++ [stmt]) := by
  obtain ⟨hmoves, hrows, hholds⟩ := hr.merchants.write hw onRow_concat onRow_concat_of_ne
  refine ⟨hmoves, .refl, hrows, rfl, rfl, ?_, ?_, ?_, ?_, ?_⟩
  · rw [List.filterMap_append, List.filterMap_cons_some hf]
    exact hholds
  · simpa [List.filterMap_append, hc] using hr.contracts
  · simpa [List.filterMap_append, hrec] using hr.records
  · simpa [List.filterMap_append, haud] using hr.audits
  · dsimp only
    rw [hrows]
    exact found_concat hr.found hfound

/-- A statement that writes the contract's row. -/
theorem executed_contract {f : Option MerchantContract → Option MerchantContract} {cs : Table ℕ ℕ MerchantContract}
    (hr : Running i m s t done) (hw : s.contracts.write i m f = some cs) (hf : stmt.onContract = some f)
    (hm : stmt.onMerchant = none) (hrec : stmt.record? = none) (haud : stmt.audit? = none)
    (hfound : done = [] → stmt.Found (s.merchants.rows m) (s.contracts.rows m)) :
    Executed i m s { s with contracts := cs } t (done ++ [stmt]) := by
  obtain ⟨hmoves, hrows, hholds⟩ := hr.contracts.write hw onRow_concat onRow_concat_of_ne
  refine ⟨.refl, hmoves, rfl, hrows, rfl, ?_, ?_, ?_, ?_, ?_⟩
  · simpa [List.filterMap_append, hm] using hr.merchants
  · rw [List.filterMap_append, List.filterMap_cons_some hf]
    exact hholds
  · simpa [List.filterMap_append, hrec] using hr.records
  · simpa [List.filterMap_append, haud] using hr.audits
  · dsimp only
    rw [hrows]
    exact found_concat hr.found hfound

/-- Before its first statement the transaction reads what is committed. -/
theorem Running.read_merchant (hr : Running i m s t done) (hd : done = []) :
    s.merchants.read i m = s.merchants.rows m := by
  subst hd
  exact hr.merchants.read_of_none onRow_self

theorem Running.read_contract (hr : Running i m s t done) (hd : done = []) :
    s.contracts.read i m = s.contracts.rows m := by
  subst hd
  exact hr.contracts.read_of_none onRow_self

theorem execute_ok (hr : Running i m s t done) (h : execute i m s t stmt = some (.ok (s', t'))) :
    Executed i m s s' t' (done ++ [stmt]) := by
  cases stmt with
  | flip signedAt =>
    rw [execute] at h
    split_ifs at h with hns
    swap
    · cases h
    obtain ⟨ms, hw, he⟩ := Option.map_eq_some_iff.mp h
    cases he
    refine executed_merchant hr hw rfl rfl rfl rfl fun hd => ?_
    rw [hr.read_merchant hd] at hns
    exact hns
  | updateMerchant signedAt =>
    rw [execute] at h
    obtain ⟨ms, hw, he⟩ := Option.map_eq_some_iff.mp h
    split_ifs at he
    cases he
    exact executed_merchant hr hw rfl rfl rfl rfl fun _ => trivial
  | createContract contract =>
    rw [execute] at h
    obtain ⟨cs, hw, he⟩ := Option.map_eq_some_iff.mp h
    split_ifs at he with hnone
    cases he
    refine executed_contract hr hw rfl rfl rfl rfl fun hd => ?_
    rw [hr.read_contract hd] at hnone
    exact hnone
  | upsertContract contract =>
    rw [execute] at h
    obtain ⟨cs, hw, he⟩ := Option.map_eq_some_iff.mp h
    cases he
    exact executed_contract hr hw rfl rfl rfl rfl fun _ => trivial
  | createRecord record =>
    cases h
    refine ⟨.refl, .refl, rfl, rfl, rfl, ?_, ?_, ?_, ?_, found_concat hr.found fun _ => trivial⟩
    · simpa [List.filterMap_append, List.filterMap_cons, Statement.onMerchant] using hr.merchants
    · simpa [List.filterMap_append, List.filterMap_cons, Statement.onContract] using hr.contracts
    · simpa [List.filterMap_append, List.filterMap_cons, Statement.record?] using hr.records
    · simpa [List.filterMap_append, List.filterMap_cons, Statement.audit?] using hr.audits
  | writeAuditLogTx audit =>
    cases h
    refine ⟨.refl, .refl, rfl, rfl, rfl, ?_, ?_, ?_, ?_, found_concat hr.found fun _ => trivial⟩
    · simpa [List.filterMap_append, List.filterMap_cons, Statement.onMerchant] using hr.merchants
    · simpa [List.filterMap_append, List.filterMap_cons, Statement.onContract] using hr.contracts
    · simpa [List.filterMap_append, List.filterMap_cons, Statement.record?] using hr.records
    · simpa [List.filterMap_append, List.filterMap_cons, Statement.audit?] using hr.audits

/-! ### The commit -/

theorem Drawn.own (h : Drawn w i call g) : (∀ r ∈ g.transaction.filterMap Statement.record?, r.merchantId = g.merchantId) ∧
    ∀ a ∈ g.transaction.filterMap Statement.audit?, a.entityId = g.merchantId := by
  cases h <;>
    simp [assistedSigning, selfServeSigning, legacySigning, contractAccepted, List.filterMap_cons, Statement.record?,
      Statement.audit?]

/-- The first statement finds the merchant not SIGNED, or without a contract. -/
theorem Drawn.found (h : Drawn w i call g) {merchant : Option MerchantRow} {contract : Option MerchantContract}
    (hf : ∀ stmt ∈ g.transaction.head?, stmt.Found merchant contract) : NotSigned merchant ∨ contract = none := by
  cases h with
  | assisted actorAdminId h => exact .inl (hf _ rfl)
  | selfServe adminId ctx h => exact .inr (hf _ rfl)
  | legacy merchantId adminId ctx contract => exact .inr (hf _ rfl)

/-- The merchant is SIGNED. -/
def Signed (m : Option MerchantRow) : Prop := ∃ row ∈ m, row.contractStatus = .SIGNED

theorem not_notSigned {merchant : Option MerchantRow} (h : Signed merchant) : ¬ NotSigned merchant := by
  rintro ⟨row, hrow, hns⟩
  obtain ⟨row', hrow', hs⟩ := h
  cases hrow.symm.trans hrow'
  exact hns hs

theorem signed_map {merchant : Option MerchantRow} {signedAt : ℤ} (h : merchant ≠ none) :
    Signed (merchant.map (MerchantRow.sign signedAt)) := by
  cases merchant with
  | none => exact absurd rfl h
  | some row => exact ⟨_, rfl, rfl⟩

/-- Each lane writes both rows. -/
theorem Drawn.signs (h : Drawn w i call g) {r : Rows} (hr : r.merchant ≠ none) :
    Signed (g.apply r).merchant ∧ (g.apply r).contract ≠ none := by
  cases h with
  | assisted actorAdminId h => exact ⟨signed_map hr, Option.some_ne_none _⟩
  | selfServe adminId ctx h => exact ⟨signed_map hr, Option.some_ne_none _⟩
  | legacy merchantId adminId ctx contract => exact ⟨signed_map hr, Option.some_ne_none _⟩

theorem filter_append_of_own {α : Type*} {p : α → Bool} {l l' : List α} (h : ∀ a ∈ l', p a = true) :
    (l ++ l').filter p = l.filter p ++ l' := by
  rw [List.filter_append, List.filter_eq_self.mpr h]

theorem filter_append_of_foreign {α : Type*} {p : α → Bool} {l l' : List α} (h : ∀ a ∈ l', p a = false) :
    (l ++ l').filter p = l.filter p := by
  have hnil : l'.filter p = [] := by
    rw [List.filter_eq_nil_iff]
    intro a ha
    rw [h a ha]
    exact Bool.false_ne_true
  rw [List.filter_append, hnil, List.append_nil]

/-- A commit writes the rows of its merchant. -/
theorem rowsOf_commit_self (hr : Running i g.merchantId s t g.transaction) (hd : Drawn w i call g) :
    (s.commit i g t).rowsOf g.merchantId = g.apply (s.rowsOf g.merchantId) := by
  obtain ⟨hrec, haud⟩ := hd.own
  rw [← hr.records] at hrec
  rw [← hr.audits] at haud
  have hm := hr.merchants.commit.2.1 g.merchantId
  have hc := hr.contracts.commit.2.1 g.merchantId
  rw [onRow_self, made_getD] at hm hc
  rw [Store.rowsOf, Signing.apply, Rows.mk.injEq]
  refine ⟨hm, hc, ?_, ?_⟩
  · rw [← hr.records]
    exact filter_append_of_own fun a ha => decide_eq_true (hrec a ha)
  · rw [← hr.audits]
    exact filter_append_of_own fun a ha => decide_eq_true (haud a ha)

theorem rowsOf_commit_of_ne (hr : Running i g.merchantId s t g.transaction) (hd : Drawn w i call g)
    (hm : m ≠ g.merchantId) : (s.commit i g t).rowsOf m = s.rowsOf m := by
  obtain ⟨hrec, haud⟩ := hd.own
  rw [← hr.records] at hrec
  rw [← hr.audits] at haud
  have hms := hr.merchants.commit.2.1 m
  have hcs := hr.contracts.commit.2.1 m
  rw [onRow_of_ne hm] at hms hcs
  rw [Store.rowsOf, Store.rowsOf, Rows.mk.injEq]
  refine ⟨hms, hcs, ?_, ?_⟩
  · exact filter_append_of_foreign fun a ha => decide_eq_false fun he => hm (he.symm.trans (hrec a ha))
  · exact filter_append_of_foreign fun a ha => decide_eq_false fun he => hm (he.symm.trans (haud a ha))

/-! ### One step -/

/-- What a step does to the committed rows: nothing, or one commit. -/
inductive Commits (w : World) (calls : ℕ → Call) (i : ℕ) (s s' : Store) : Prop
  | none (hs : s'.signings = s.signings) (hr : ∀ m, s'.rowsOf m = s.rowsOf m)
  | commit (g : Signing) (hd : ∃ merchants, check w i merchants (calls i) = .ok g)
    (hs : s'.signings = (i, g) :: s.signings)
    (hf : NotSigned (s.rowsOf g.merchantId).merchant ∨ (s.rowsOf g.merchantId).contract = .none)
    (hr : s'.rowsOf g.merchantId = g.apply (s.rowsOf g.merchantId))
    (hn : ∀ m, m ≠ g.merchantId → s'.rowsOf m = s.rowsOf m)

structure StepOk (w : World) (calls : ℕ → Call) (i : ℕ) (s s' : Store) (ph' : Phase) : Prop where
  merchants : s.merchants.Moves i s'.merchants
  contracts : s.contracts.Moves i s'.contracts
  objects : ∀ key, key.minted ≠ i → s'.objects key = s.objects key
  commits : Commits w calls i s s'
  own : Local w calls i s' ph'

variable {ph ph' : Phase} {a : Act}

/-- A phase that is not the last one of a successful call. -/
theorem Local.ledger_of_ne (h : Local w calls i s ph) (hreturned : ∀ g, ph ≠ .returned g)
    (hreturned' : ∀ g, ph' ≠ .returned g) (hs : s'.signings = s.signings) (g : Signing) :
    (i, g) ∈ s'.signings ↔ ph' = .returned g := by
  rw [hs, h.ledger g]
  exact iff_of_false (hreturned g) (hreturned' g)

/-- A step that leaves the store. -/
theorem stepOk_stay (h : Local w calls i s ph) (hreturned : ∀ g, ph ≠ .returned g) (hreturned' : ∀ g, ph' ≠ .returned g)
    (hdrawn : ∀ g ∈ ph'.signing, ∃ merchants, check w i merchants (calls i) = .ok g) (hlocks : ph'.locks i s)
    (hbucket : (∀ e, ph' ≠ .failed e true) → Holds i s ph'.stored) : StepOk w calls i s s ph' :=
  ⟨.refl, .refl, fun _ _ => rfl, .none rfl fun _ => rfl,
    ⟨h.ledger_of_ne hreturned hreturned' rfl, hdrawn, hlocks, hbucket⟩⟩

theorem running_begin (h : Idle i s) : Running i m s ⟨[], []⟩ [] := by
  refine ⟨?_, ?_, rfl, rfl, fun _ hs => by cases hs⟩ <;> rw [List.filterMap_nil, onRow_nil]
  · exact h.merchants
  · exact h.contracts

theorem locks_begin (h : Idle i s) : (begin g).locks i s := ⟨[], rfl, running_begin h⟩

/-- Nothing is stored under the keys of the call. -/
theorem holds_putObject {u : Upload} (h : Holds i s none) :
    Holds i (s.putObject u) (some u) := by
  intro key hkey
  rcases eq_or_ne key u.key with rfl | hne
  · simp [Store.putObject]
  · rw [Store.putObject]
    dsimp only
    rw [Function.update_of_ne hne, h key hkey]
    simp [Option.filter, hne.symm]

theorem holds_deleteObject {u : Upload} (h : Holds i s (some u)) : Holds i (s.deleteObject u.key) none := by
  intro key hkey
  rcases eq_or_ne key u.key with rfl | hne
  · simp [Store.deleteObject]
  · rw [Store.deleteObject]
    dsimp only
    rw [Function.update_of_ne hne, h key hkey]
    simp [Option.filter, hne.symm]

theorem Drawn.minted (h : Drawn w i call g) {u : Upload} (hu : g.upload = some u) : u.key.minted = i := by
  cases h with
  | assisted actorAdminId h =>
    cases hu
    exact h.minted
  | selfServe adminId ctx h =>
    cases hu
    exact h.minted
  | legacy merchantId adminId ctx contract => cases hu

/-- A rollback, after which the call has nothing left to do but to delete its PDF. -/
theorem stepOk_rollback {rest : List Statement} {e : Failure} (h : Local w calls i s (.running g t rest)) :
    StepOk w calls i s (s.rollback i) (g.afterRollback e) := by
  obtain ⟨hmoves, hrows, hfree⟩ := Table.holds_rollback (t := s.merchants) (i := i)
  obtain ⟨hmoves', hrows', hfree'⟩ := Table.holds_rollback (t := s.contracts) (i := i)
  have hnone : ∀ m, (s.rollback i).rowsOf m = s.rowsOf m := fun m => by
    rw [Store.rowsOf, Store.rowsOf, Rows.mk.injEq]
    exact ⟨congrFun hrows m, congrFun hrows' m, rfl, rfl⟩
  refine ⟨hmoves, hmoves', fun _ _ => rfl, .none rfl hnone, ?_⟩
  have hbucket := h.bucket nofun
  rw [Signing.afterRollback]
  split_ifs with hup
  · refine ⟨h.ledger_of_ne (fun _ => nofun) (fun _ => nofun) rfl, nofun, ⟨hfree, hfree'⟩, fun _ => ?_⟩
    rw [Phase.stored, hup] at hbucket
    exact hbucket
  · exact ⟨h.ledger_of_ne (fun _ => nofun) (fun _ => nofun) rfl, h.drawn, ⟨hfree, hfree'⟩, fun _ => hbucket⟩

theorem next_check : next w calls i s .start .check =
    match check w i s.merchants.rows (calls i) with
    | .ok g => some (s, if g.upload = none then begin g else .checked g)
    | .error e => some (s, .failed (.app e) false) := rfl

theorem next_upload : next w calls i s (.checked g) .upload =
    match g.upload with
    | some u =>
      if isStorageEnabled (calls i).env = true then some (s.putObject u, begin g)
      else some (s, .failed (.app .STORAGE_NOT_ENABLED) false)
    | none => none := rfl

theorem next_delete {e : Failure} : next w calls i s (.undone g e) (.delete true) =
    match g.upload with
    | some u => some (s.deleteObject u.key, .failed (g.rethrow e) false)
    | none => none := rfl

theorem step_check (h : Local w calls i s .start) (hn : next w calls i s .start .check = some (s', ph')) :
    StepOk w calls i s s' ph' := by
  rw [next_check] at hn
  have hbucket := h.bucket nofun
  split at hn
  · next g hg =>
    cases hn
    have hdrawn : ∃ merchants, check w i merchants (calls i) = .ok g := ⟨_, hg⟩
    split_ifs with hup
    · refine stepOk_stay h (fun _ => nofun) (fun _ => nofun) (fun _ he => by cases he; exact hdrawn)
        (locks_begin h.locks) fun _ => ?_
      rw [begin, Phase.stored, hup]
      exact hbucket
    · exact stepOk_stay h (fun _ => nofun) (fun _ => nofun) (fun _ he => by cases he; exact hdrawn) h.locks
        fun _ => hbucket
  · cases hn
    exact stepOk_stay h (fun _ => nofun) (fun _ => nofun) nofun h.locks fun _ => hbucket

theorem step_upload (h : Local w calls i s (.checked g)) (hn : next w calls i s (.checked g) .upload = some (s', ph')) :
    StepOk w calls i s s' ph' := by
  rw [next_upload] at hn
  have hbucket := h.bucket nofun
  split at hn
  · next u hu =>
    split_ifs at hn with hstorage
    · cases hn
      obtain ⟨merchants, hcheck⟩ := h.drawn g rfl
      have hminted := (drawn_of_check hcheck).minted hu
      refine ⟨.refl, .refl, fun key hkey => ?_, .none rfl fun _ => rfl, ?_⟩
      · refine Function.update_of_ne ?_ ..
        rintro rfl
        exact hkey hminted
      · refine ⟨h.ledger_of_ne (fun _ => nofun) (fun _ => nofun) rfl, h.drawn, locks_begin ⟨h.locks.1, h.locks.2⟩,
          fun _ => ?_⟩
        rw [begin, Phase.stored, hu]
        exact holds_putObject hbucket
    · cases hn
      exact stepOk_stay h (fun _ => nofun) (fun _ => nofun) nofun h.locks fun _ => hbucket
  · cases hn

theorem step_statement {rest : List Statement} (h : Local w calls i s (.running g t (stmt :: rest)))
    (hn : next w calls i s (.running g t (stmt :: rest)) .statement = some (s', ph')) : StepOk w calls i s s' ph' := by
  obtain ⟨outcome, he, ho⟩ := Option.map_eq_some_iff.mp hn
  cases outcome with
  | error e =>
    cases ho
    exact stepOk_rollback h
  | ok st =>
    obtain ⟨s₂, t₂⟩ := st
    cases ho
    obtain ⟨done, hdone, hr⟩ := h.locks
    have hx := execute_ok hr he
    have hrest := hx.rest
    refine ⟨hx.merchants, hx.contracts, fun key _ => by rw [hrest], .none (by rw [hrest]) fun m => ?_, ?_⟩
    · rw [hrest, Store.rowsOf, Store.rowsOf, Rows.mk.injEq]
      exact ⟨congrFun hx.merchantRows m, congrFun hx.contractRows m, rfl, rfl⟩
    · refine ⟨h.ledger_of_ne (fun _ => nofun) (fun _ => nofun) (by rw [hrest]), h.drawn, ⟨done ++ [stmt], ?_, hx.running⟩,
        fun _ => ?_⟩
      · rw [hdone, List.append_assoc, List.singleton_append]
      · have hbucket := h.bucket nofun
        intro key hkey
        rw [hrest]
        exact hbucket key hkey

theorem step_commit (h : Local w calls i s (.running g t [])) : StepOk w calls i s (s.commit i g t) (.returned g) := by
  obtain ⟨done, hdone, hr⟩ := h.locks
  rw [List.append_nil] at hdone
  subst hdone
  obtain ⟨merchants, hcheck⟩ := h.drawn g rfl
  have hd := drawn_of_check hcheck
  obtain ⟨hmoves, -, hfree⟩ := hr.merchants.commit
  obtain ⟨hmoves', -, hfree'⟩ := hr.contracts.commit
  refine ⟨hmoves, hmoves', fun _ _ => rfl, .commit g ⟨merchants, hcheck⟩ rfl (hd.found hr.found) (rowsOf_commit_self hr hd)
    fun m hm => rowsOf_commit_of_ne hr hd hm, ⟨fun g' => ?_, h.drawn, ⟨hfree, hfree'⟩, fun _ => h.bucket nofun⟩⟩
  -- Until now the call was not in the ledger.
  have hnot : (i, g') ∉ s.signings := fun hm => Phase.noConfusion ((h.ledger g').mp hm)
  constructor
  · intro hm
    rcases List.mem_cons.mp hm with he | hm
    · cases he
      rfl
    · exact absurd hm hnot
  · intro he
    cases he
    exact List.mem_cons_self ..

theorem step_delete {e : Failure} {ok : Bool} (h : Local w calls i s (.undone g e))
    (hn : next w calls i s (.undone g e) (.delete ok) = some (s', ph')) : StepOk w calls i s s' ph' := by
  cases ok with
  | false =>
    cases hn
    exact stepOk_stay h (fun _ => nofun) (fun _ => nofun) nofun h.locks
      fun hf => absurd rfl (hf _)
  | true =>
    rw [next_delete] at hn
    split at hn
    · next u hu =>
      cases hn
      obtain ⟨merchants, hcheck⟩ := h.drawn g rfl
      have hminted := (drawn_of_check hcheck).minted hu
      have hbucket := h.bucket nofun
      rw [Phase.stored, hu] at hbucket
      refine ⟨.refl, .refl, fun key hkey => ?_, .none rfl fun _ => rfl, ?_⟩
      · refine Function.update_of_ne ?_ ..
        rintro rfl
        exact hkey hminted
      · exact ⟨h.ledger_of_ne (fun _ => nofun) (fun _ => nofun) rfl, nofun, ⟨h.locks.1, h.locks.2⟩,
          fun _ => holds_deleteObject hbucket⟩
    · cases hn

theorem step_ok (h : Local w calls i s ph) (hn : next w calls i s ph a = some (s', ph')) :
    StepOk w calls i s s' ph' := by
  cases ph with
  | start =>
    cases a with
    | check => exact step_check h hn
    | fail =>
      cases hn
      exact stepOk_stay h (fun _ => nofun) (fun _ => nofun) nofun h.locks
        fun _ => h.bucket nofun
    | _ => cases hn
  | checked g =>
    cases a with
    | upload => exact step_upload h hn
    | fail =>
      cases hn
      exact stepOk_stay h (fun _ => nofun) (fun _ => nofun) nofun h.locks
        fun _ => h.bucket nofun
    | _ => cases hn
  | running g t rest =>
    cases rest with
    | nil =>
      cases a with
      | commit =>
        cases hn
        exact step_commit h
      | fail =>
        cases hn
        exact stepOk_rollback h
      | _ => cases hn
    | cons stmt rest =>
      cases a with
      | statement => exact step_statement h hn
      | fail =>
        cases hn
        exact stepOk_rollback h
      | _ => cases hn
  | undone g e =>
    cases a with
    | delete ok => exact step_delete h hn
    | _ => cases hn
  | returned g => cases a <;> cases hn
  | failed e orphaned => cases a <;> cases hn

/-! ### The other calls -/

/-- A row that a transaction has written stays as it is committed while the others move. -/
theorem rows_of_written {σ : Type*} {tb tb' : Table ℕ ℕ σ} {fs : List (Option σ → Option σ)} (hm : tb.Moves i tb')
    (hne : i ≠ j) (h : tb.Holds j (onRow m fs)) (hfs : fs ≠ []) : tb'.rows m = tb.rows m := by
  cases fs with
  | nil => exact absurd rfl hfs
  | cons f fs =>
    have hheld := h m
    rw [onRow_self] at hheld
    rw [Table.rows, Table.rows, (hm m).held_of_ne hne hheld]

/-- What the first statement has found is under a lock. -/
theorem Running.frame (h : Running j m s t done) (hne : i ≠ j) (hm : s.merchants.Moves i s'.merchants)
    (hc : s.contracts.Moves i s'.contracts) : Running j m s' t done := by
  refine ⟨h.merchants.frame hm hne, h.contracts.frame hc hne, h.records, h.audits, ?_⟩
  cases done with
  | nil => exact nofun
  | cons stmt done =>
    intro stmt' hs
    cases hs
    have hfound := h.found stmt rfl
    cases stmt with
    | flip signedAt =>
      rw [Statement.Found, rows_of_written hm hne h.merchants (List.cons_ne_nil _ _)]
      exact hfound
    | createContract contract =>
      rw [Statement.Found, rows_of_written hc hne h.contracts (List.cons_ne_nil _ _)]
      exact hfound
    | _ => trivial

theorem Idle.frame (h : Idle j s) (hne : i ≠ j) (hm : s.merchants.Moves i s'.merchants)
    (hc : s.contracts.Moves i s'.contracts) : Idle j s' :=
  ⟨h.merchants.frame hm hne, h.contracts.frame hc hne⟩

theorem Local.frame (h : Local w calls j s ph) (hne : i ≠ j) (hs : StepOk w calls i s s' ph') :
    Local w calls j s' ph := by
  refine ⟨fun g => ?_, h.drawn, ?_, fun hf key hkey => ?_⟩
  · rw [← h.ledger g]
    cases hs.commits with
    | none he _ => rw [he]
    | commit g' _ he _ _ _ =>
      rw [he, List.mem_cons, Prod.mk.injEq]
      exact or_iff_right fun hc => hne hc.1.symm
  · have hlocks := h.locks
    cases ph with
    | running g t rest =>
      obtain ⟨done, hdone, hr⟩ := hlocks
      exact ⟨done, hdone, hr.frame hne hs.merchants hs.contracts⟩
    | _ => exact Idle.frame hlocks hne hs.merchants hs.contracts
  · rw [hs.objects key fun hi => hne (hi.symm.trans hkey)]
    exact h.bucket hf key hkey

/-! ### Every interleaving -/

/-- The tables before any call; a record comes with its contract. -/
structure Tables where
  merchants : ℕ → Option MerchantRow
  contracts : ℕ → Option MerchantContract
  records : List MerchantAgreementRecord
  audits : List AuditLog
  recorded : ∀ r ∈ records, contracts r.merchantId ≠ none

/-- No call has begun, and no key has been minted for one. -/
def initial (tables : Tables) : Pool ℕ Store Phase :=
  ⟨⟨⟨fun m => ⟨tables.merchants m, none⟩⟩, ⟨fun m => ⟨tables.contracts m, none⟩⟩, tables.records, tables.audits,
    fun _ => none, []⟩, fun _ => .start⟩

def Tables.rowsOf (tables : Tables) (m : ℕ) : Rows where
  merchant := tables.merchants m
  contract := tables.contracts m
  records := tables.records.filter fun r => r.merchantId = m
  audits := tables.audits.filter fun a => a.entityId = m

/-- The committed transactions of one merchant. -/
def Store.signingsOf (s : Store) (m : ℕ) : List (ℕ × Signing) := s.signings.filter fun e => e.2.merchantId = m

/-- Nobody has signed for the merchant and its rows are as before, or one call has and they are what it has made of
    them. -/
def Ledger (w : World) (calls : ℕ → Call) (tables : Tables) (m : ℕ) (s : Store) : Prop :=
  s.signingsOf m = [] ∧ s.rowsOf m = tables.rowsOf m ∨
    ∃ i g, s.signingsOf m = [(i, g)] ∧ (∃ merchants, check w i merchants (calls i) = .ok g) ∧
      s.rowsOf m = g.apply (tables.rowsOf m)

variable {tables : Tables}

theorem Ledger.step (h : Ledger w calls tables m s) (hc : Commits w calls i s s') (hm : NotSigned (tables.merchants m)) :
    Ledger w calls tables m s' := by
  cases hc with
  | none hs hr =>
    rw [Ledger, Store.signingsOf, hs, hr]
    exact h
  | commit g hd hs hf hr hn =>
    rcases eq_or_ne m g.merchantId with rfl | hne
    · have hmine : s'.signingsOf g.merchantId = (i, g) :: s.signingsOf g.merchantId := by
        rw [Store.signingsOf, hs]
        exact List.filter_cons_of_pos (decide_eq_true rfl)
      rcases h with ⟨hnil, hrows⟩ | ⟨i', g', -, ⟨merchants, hcheck⟩, hrows⟩
      · rw [hrows] at hr
        rw [hnil] at hmine
        exact .inr ⟨i, g, hmine, hd, hr⟩
      · -- Both rows would be written.
        obtain ⟨row, hrow, -⟩ := hm
        have hsome : (tables.rowsOf g.merchantId).merchant ≠ none := Option.ne_none_iff_exists'.mpr ⟨row, hrow⟩
        obtain ⟨hsigned, hcontract⟩ := (drawn_of_check hcheck).signs hsome
        rw [hrows] at hf
        rcases hf with hns | hnone
        · exact absurd hns (not_notSigned hsigned)
        · exact absurd hnone hcontract
    · have hsame : s'.signingsOf m = s.signingsOf m := by
        rw [Store.signingsOf, hs]
        exact List.filter_cons_of_neg (by simp [hne.symm])
      rw [Ledger, hsame, hn m hne]
      exact h

/-- The merchant's books, and what every call knows. -/
def Invariant (w : World) (calls : ℕ → Call) (tables : Tables) (m : ℕ) : Pool ℕ Store Phase → Prop :=
  PoolInv (Ledger w calls tables m) (Local w calls)

theorem invariant_initial : Invariant w calls tables m (initial tables) := by
  refine ⟨.inl ⟨rfl, rfl⟩, fun i => ⟨fun g => ?_, nofun, ?_, fun _ key _ => rfl⟩⟩
  · exact iff_of_false (List.not_mem_nil) nofun
  · exact ⟨fun _ => Cell.free_of_held_none rfl, fun _ => Cell.free_of_held_none rfl⟩

theorem invariant_run (hm : NotSigned (tables.merchants m)) {as : List (ℕ × Act)} {s : Pool ℕ Store Phase}
    (h : run (poolStep (next w calls)) (initial tables) as = some s) : Invariant w calls tables m s := by
  refine pool_invariant ?_ ?_ invariant_initial h
  · intro i x ph a x' ph' hj hl hn
    have hok := step_ok hl hn
    exact ⟨hj.step hok.commits hm, hok.own⟩
  · intro i j x ph ph₂ a x' ph' hne _ hl hl₂ hn
    exact hl₂.frame hne (step_ok hl hn)

/-! ### Signed once -/

/-- Call `i` has succeeded for the merchant. -/
def Succeeded (m : ℕ) (s : Pool ℕ Store Phase) (i : ℕ) (g : Signing) : Prop := s.proc i = .returned g ∧ g.merchantId = m

/-- The evidence of the call that has signed. -/
structure Evidenced (w : World) (call : Call) (r : Rows) (objects : PdfKey → Option Buffer) : Prop where
  record : ∃ record contract, r.records = [record] ∧ r.contract = some contract ∧
    record.agreementVersion = contract.tcVersion ∧
    computeContentHash w.toRuntime record.reviewedBody = record.reviewedContentHash ∧
    record.reviewedContentHash = call.echoedHash ∧
    ∃ body ∈ objects record.pdfKey, w.sha256 body = record.pdfHash

structure SignedOnce (w : World) (calls : ℕ → Call) (tables : Tables) (m : ℕ) (s : Pool ℕ Store Phase) : Prop where
  one : ∀ i j g g', Succeeded m s i g → Succeeded m s j g' → i = j
  /-- It does what its checks have let through. -/
  drawn : ∀ i g, Succeeded m s i g → ∃ merchants, check w i merchants (calls i) = .ok g
  /-- A call that has not succeeded has left no row. -/
  none : (∀ i g, ¬ Succeeded m s i g) → s.store.rowsOf m = tables.rowsOf m
  rows : ∀ i g, Succeeded m s i g → s.store.rowsOf m = g.apply (tables.rowsOf m)
  status : Signed (s.store.merchants.rows m) ↔ ∃ contract, s.store.contracts.rows m = some contract
  evidence : ∀ i g, Succeeded m s i g → g.lane ≠ .legacy →
    Evidenced w (calls i) (s.store.rowsOf m) s.store.objects
  legacy : ∀ i g, Succeeded m s i g → g.lane = .legacy → (s.store.rowsOf m).records = []
  /-- A failed call has left no PDF, unless its delete has failed. -/
  deleted : ∀ i e, s.proc i = .failed e false → ∀ key, key.minted = i → s.store.objects key = Option.none

variable {p : Pool ℕ Store Phase}

theorem succeeded_iff (hinv : Invariant w calls tables m p) : Succeeded m p i g ↔ (i, g) ∈ p.store.signingsOf m := by
  rw [Succeeded, Store.signingsOf, List.mem_filter, (hinv.2 i).ledger g, decide_eq_true_iff]

/-- The PDF of a successful call is where its record says. -/
theorem stored_of_succeeded (hinv : Invariant w calls tables m p) (h : Succeeded m p i g) {u : Upload}
    (hu : g.upload = some u) (hk : u.key.minted = i) : p.store.objects u.key = some u.body := by
  have hbucket := (hinv.2 i).bucket fun e he => by cases h.1.symm.trans he
  rw [h.1, Phase.stored, hu] at hbucket
  rw [hbucket u.key hk]
  simp

theorem evidenced_of_drawn (hinv : Invariant w calls tables m p) (h : Succeeded m p i g) (hd : Drawn w i (calls i) g)
    (hlane : g.lane ≠ .legacy) {r : Rows} (hrec : r.records = []) :
    Evidenced w (calls i) (g.apply r) p.store.objects := by
  cases hd with
  | @assisted upload record contract actorAdminId he =>
    refine ⟨record, contract.upsert r.contract, ?_, rfl, he.version, he.preimage, he.echoed, upload.body, ?_, he.pdf⟩
    · rw [Signing.apply, hrec]
      rfl
    · rw [he.key]
      exact stored_of_succeeded hinv h rfl he.minted
  | @selfServe upload record contract adminId ctx he =>
    refine ⟨record, contract, ?_, rfl, he.version, he.preimage, he.echoed, upload.body, ?_, he.pdf⟩
    · rw [Signing.apply, hrec]
      rfl
    · rw [he.key]
      exact stored_of_succeeded hinv h rfl he.minted
  | legacy merchantId adminId ctx contract => exact absurd rfl hlane

theorem records_legacy (hd : Drawn w i call g) (hlane : g.lane = .legacy) {r : Rows} (hrec : r.records = []) :
    (g.apply r).records = [] := by
  cases hd with
  | assisted actorAdminId he => cases hlane
  | selfServe adminId ctx he => cases hlane
  | legacy merchantId adminId ctx contract =>
    rw [Signing.apply, hrec]
    rfl

/-- Nothing is recorded of a merchant without a contract. -/
theorem records_of_no_contract (hc : tables.contracts m = none) : (tables.rowsOf m).records = [] := by
  refine List.filter_eq_nil_iff.mpr fun r hr he => tables.recorded r hr ?_
  rw [of_decide_eq_true he]
  exact hc

/-- CORRECT: whatever calls sign for a merchant that is not SIGNED and has no contract, in either lane and however
    their steps interleave and fail, one of them succeeds at most. The rows are those that it has written, the merchant
    is SIGNED exactly if it has its contract, and with evidence there is one record, of the version of the contract,
    whose body has the hash that this call echoed and whose PDF is stored. -/
theorem signed_once (w : World) (calls : ℕ → Call) (tables : Tables) (m : ℕ) (hm : NotSigned (tables.merchants m))
    (hc : tables.contracts m = none) (as : List (ℕ × Act)) (s : Pool ℕ Store Phase)
    (h : run (poolStep (next w calls)) (initial tables) as = some s) : SignedOnce w calls tables m s := by
  have hinv := invariant_run hm h
  have hrec : (tables.rowsOf m).records = [] := records_of_no_contract hc
  have hdeleted : ∀ i e, s.proc i = .failed e false → ∀ key, key.minted = i → s.store.objects key = none := by
    intro i e he key hkey
    have hbucket := (hinv.2 i).bucket fun e' he' => by cases he.symm.trans he'
    rw [hbucket key hkey, he]
    rfl
  rcases hinv.1 with ⟨hnil, hrows⟩ | ⟨i₀, g₀, hone, ⟨merchants, hcheck⟩, hrows⟩
  · have hno : ∀ i g, ¬ Succeeded m s i g := by
      intro i g hs
      have hmem := (succeeded_iff hinv).mp hs
      rw [hnil] at hmem
      cases hmem
    refine ⟨fun i j g g' hs => absurd hs (hno i g), fun i g hs => absurd hs (hno i g), fun _ => hrows,
      fun i g hs => absurd hs (hno i g), ?_, fun i g hs => absurd hs (hno i g), fun i g hs => absurd hs (hno i g),
      hdeleted⟩
    have hmerchant : s.store.merchants.rows m = tables.merchants m := congrArg Rows.merchant hrows
    have hcontract : s.store.contracts.rows m = none := (congrArg Rows.contract hrows).trans hc
    rw [hmerchant, hcontract]
    refine iff_of_false (fun hs => not_notSigned hs hm) ?_
    rintro ⟨contract, ⟨⟩⟩
  · have hd := drawn_of_check hcheck
    have hthis : ∀ i g, Succeeded m s i g → i = i₀ ∧ g = g₀ := by
      intro i g hs
      have hmem := (succeeded_iff hinv).mp hs
      rw [hone, List.mem_singleton, Prod.mk.injEq] at hmem
      exact hmem
    have hwon : Succeeded m s i₀ g₀ := by
      rw [succeeded_iff hinv, hone]
      exact List.mem_singleton_self _
    refine ⟨?_, ?_, fun hno => absurd hwon (hno i₀ g₀), ?_, ?_, ?_, ?_, hdeleted⟩
    · intro i j g g' hs hs'
      rw [(hthis i g hs).1, (hthis j g' hs').1]
    · intro i g hs
      obtain ⟨rfl, rfl⟩ := hthis i g hs
      exact ⟨merchants, hcheck⟩
    · intro i g hs
      obtain ⟨rfl, rfl⟩ := hthis i g hs
      exact hrows
    · obtain ⟨row, hrow, -⟩ := hm
      have hsome : (tables.rowsOf m).merchant ≠ none := Option.ne_none_iff_exists'.mpr ⟨row, hrow⟩
      obtain ⟨hsigned, hcontract⟩ := hd.signs hsome
      rw [← hrows] at hsigned hcontract
      exact iff_of_true hsigned (Option.ne_none_iff_exists'.mp hcontract)
    · intro i g hs hlane
      obtain ⟨rfl, rfl⟩ := hthis i g hs
      rw [hrows]
      exact evidenced_of_drawn hinv hs hd hlane hrec
    · intro i g hs hlane
      obtain ⟨rfl, rfl⟩ := hthis i g hs
      rw [hrows]
      exact records_legacy hd hlane hrec

/-! ### Two lanes that deadlock -/

def staging : Env := ⟨some "staging", none, none, some "true"⟩

def owner : Membership := ⟨1, 1, .OWNER, true, true, .ACTIVE, []⟩

def salon : World where
  normalizeNFC := id
  toLowerCase := id
  sha256 := fun bytes => if bytes = [] then "0" else "1"
  isInvisibleOrControl := fun _ => false
  isLetterOrNumber := Char.isAlphanum
  MERCHANT_AGREEMENT_V2_SOURCE := "v2"
  renderAgreementPdf := fun _ _ => [37, 80, 68, 70]
  accounts := ⟨[⟨1, .REGISTERED, .REGISTERED⟩], [owner]⟩
  adminUser := fun _ => some ⟨"R", "P", "r"⟩

def ctx : RequestContext := ⟨"ip", "ua"⟩

/-- A ceremony and a click, at the same time. -/
def bothLanes : ℕ → Call
  | 0 => .signAgreementInPerson staging ⟨1, "a", "O", "D", some "2.1-draft", some "1", none⟩ ctx 7
  | _ => .acceptContract staging 1 "2.1-draft" ctx ⟨some "O", some "D", some "1"⟩ 8

def unsigned : Tables where
  merchants := fun m => if m = 1 then some ⟨.NOT_SIGNED, none, "S", none, none, none⟩ else none
  contracts := fun _ => none
  records := []
  audits := []
  recorded := nofun

/-- Each holds a row that the other waits for, and the click is aborted. -/
def deadlock : List (ℕ × Act) :=
  [(0, .check), (1, .check), (0, .upload), (1, .upload), (0, .statement), (1, .statement), (0, .statement), (1, .fail),
    (1, .delete true), (0, .statement), (0, .statement), (0, .commit)]

theorem signed_once_deadlock : ∃ s, run (poolStep (next salon bothLanes)) (initial unsigned) deadlock = some s ∧
    s.proc 1 = .failed .aborted false ∧ (∃ g, Succeeded 1 s 0 g) ∧ SignedOnce salon bothLanes unsigned 1 s := by
  obtain ⟨s, hs, hfailed, hreturned⟩ : ∃ s,
      run (poolStep (next salon bothLanes)) (initial unsigned) deadlock = some s ∧
      s.proc 1 = .failed .aborted false ∧ ∃ g, Succeeded 1 s 0 g := ⟨_, rfl, rfl, _, rfl, rfl⟩
  exact ⟨s, hs, hfailed, hreturned, signed_once salon bothLanes unsigned 1 ⟨_, rfl, nofun⟩ rfl deadlock s hs⟩

end Redeemo.Agreements
