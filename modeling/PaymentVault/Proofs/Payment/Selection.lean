import PaymentVault.Proofs.Payment.Order

/-!
# What selections and searches give

A selection gives the entries that meet its condition, each as often as it is listed, and in the
order of the list. So it makes no difference whether payments are sorted before, after or twice, or
are selected again (`Selects`). The conditions are those of a screen of one day (`IsShown`) and of
a search (`IsSought`), and both are told here apart from how they are tested (`queries_select`).
-/
namespace PaymentVault.Payment

/-! ## Selections -/

/-- Selecting and sorting can be exchanged, for payments that tie keep their order. -/
theorem sorted_filter (keeps : Payment → Bool) (payments : List Payment) :
    sorted (payments.filter keeps) = (sorted payments).filter keeps := by
  symm
  apply Arranges.eq_sorted
  constructor
  · exact (sorted_perm payments).filter keeps
  · exact (pairwise_sorted payments).filter keeps
  · intro place
    have ties := congrArg (List.filter keeps) (tied_sorted place payments)
    simpa only [tied, List.filter_filter, Bool.and_comm] using ties

/-- What a selection by a condition gives of some payments. -/
structure Selects (P : Payment → Prop) [DecidablePred P] (select : List Payment → List Payment)
    (payments : List Payment) : Prop where
  count : ∀ payment, (select payments).count payment =
    if P payment then payments.count payment else 0
  arranges : Arranges (payments.filter P) (select payments)
  filtered : (sorted payments).filter P = select payments
  of_sorted : select (sorted payments) = select payments
  again : select (select payments) = select payments

variable {P : Payment → Prop} [DecidablePred P]

theorem selects_of_eq {select : List Payment → List Payment}
    (same : ∀ payments, select payments = sorted (payments.filter P)) (payments : List Payment) :
    Selects P select payments := by
  constructor
  · intro payment
    rw [same, (sorted_perm _).count_eq]
    by_cases meets : P payment
    · rw [if_pos meets, List.count_filter (by simpa using meets)]
    · rw [if_neg meets, List.count_eq_zero]
      simp [meets]
  · rw [same]
    exact arranges_sorted _
  · rw [same, sorted_filter]
  · rw [same, same, ← sorted_filter, sorted_sorted]
  · rw [same, same, ← sorted_filter, sorted_sorted, List.filter_filter]
    simp

/-! ## The condition of a screen -/

/-- The kinds of payments that a screen shows. -/
inductive Shows : PaymentKind → PaymentKind → Prop
  | sending : Shows .sending .sending
  | requested : Shows .receiving .requested
  | receiving : Shows .receiving .receiving
  | partPaid : Shows .receiving .partPaid

theorem mem_todaysKinds_iff {screen kind : PaymentKind} :
    kind ∈ todaysKinds screen ↔ Shows screen kind := by
  constructor
  · intro member
    cases screen <;> simp only [todaysKinds, List.mem_cons, List.not_mem_nil, or_false] at member
    · subst member
      exact .sending
    · rcases member with rfl | rfl | rfl
      · exact .requested
      · exact .receiving
      · exact .partPaid
  · intro shows
    cases shows <;> decide

/-- The payment is of a kind that the screen shows, and of a moment of the day, the days being
counted from 1970-01-01 in UTC. -/
structure IsShown (screen : PaymentKind) (today : Int) (payment : Payment) : Prop where
  kind : Shows screen payment.kind
  notBefore : today * 86400 ≤ payment.date.seconds
  before : payment.date.seconds < (today + 1) * 86400

theorem isShown_iff {screen : PaymentKind} {today : Int} {payment : Payment} :
    IsShown screen today payment ↔
      ((todaysKinds screen).contains payment.kind && payment.date.dayNumber == today) := by
  rw [Bool.and_eq_true, List.contains_iff_mem, mem_todaysKinds_iff, beq_iff_eq, Instant.dayNumber]
  constructor
  · rintro ⟨kind, notBefore, before⟩
    exact ⟨kind, by omega⟩
  · rintro ⟨kind, day⟩
    exact ⟨kind, by omega, by omega⟩

instance (screen : PaymentKind) (today : Int) : DecidablePred (IsShown screen today) :=
  fun _ => decidable_of_iff _ isShown_iff.symm

theorem ofDay_eq (screen : PaymentKind) (today : Int) (payments : List Payment) :
    ofDay screen today payments = sorted (payments.filter fun p => IsShown screen today p) := by
  rw [ofDay]
  congr 2
  funext payment
  rw [Bool.eq_iff_iff, decide_eq_true_iff]
  exact isShown_iff.symm

/-! ## The condition of a search -/

/-- A text that belongs to a payment. -/
inductive HasText : Payment → String → Prop
  | description (payment) : HasText payment payment.description
  | note (payment) : HasText payment payment.note
  | label {r : PaymentRequest} {text : String} (there : r.label = some text) :
    HasText (.request r) text
  | address {t : TransactionPayment} {text : String} (there : text ∈ t.outputAddresses) :
    HasText (.transaction t) text
  | raw (t : TransactionPayment) : HasText (.transaction t) t.rawTransaction

theorem mem_searchTexts_iff {payment : Payment} {text : String} :
    text ∈ payment.searchTexts ↔ payment.HasText text := by
  constructor
  · intro member
    cases payment with
    | request r =>
      simp only [searchTexts, List.mem_cons, Option.mem_toList] at member
      rcases member with rfl | rfl | there
      · exact .description (.request r)
      · exact .note (.request r)
      · exact .label there
    | transaction t =>
      simp only [searchTexts, List.mem_cons, List.mem_append, List.cons_append,
        List.not_mem_nil, or_false] at member
      rcases member with rfl | rfl | there | rfl
      · exact .description (.transaction t)
      · exact .note (.transaction t)
      · exact .address there
      · exact .raw t
  · intro has
    cases has with
    | description => cases payment <;> simp [searchTexts, description]
    | note => cases payment <;> simp [searchTexts, note]
    | label there => simp [searchTexts, there]
    | address there => simp [searchTexts, there]
    | raw t => simp [searchTexts]

/-- A text of the payment holds the query once both are in lowercase, or the payment is a request
and the query its address. -/
def IsSought (query : String) (payment : Payment) : Prop :=
  (∃ text, payment.HasText text ∧ lowercase query.toList <:+: lowercase text.toList) ∨
    ∃ r, payment = .request r ∧ r.address = query

theorem isFoundBy_iff {query : String} {payment : Payment} :
    isFoundBy query payment ↔ IsSought query payment := by
  have asked : (payment.request?.any fun request => request.address == query) ↔
      ∃ r, payment = .request r ∧ r.address = query := by
    cases payment <;> simp [request?]
  simp only [isFoundBy, Bool.or_eq_true, asked, List.any_eq_true, mem_searchTexts_iff,
    occursIn_iff, IsSought]

instance (query : String) : DecidablePred (IsSought query) :=
  fun _ => decidable_of_iff _ isFoundBy_iff

theorem search_eq (query : String) (payments : List Payment) :
    search query payments = sorted (payments.filter fun p => IsSought query p) := by
  rw [search]
  congr 2
  funext payment
  rw [Bool.eq_iff_iff, decide_eq_true_iff]
  exact isFoundBy_iff

theorem mem_search_iff {query : String} {payments : List Payment} {payment : Payment} :
    payment ∈ search query payments ↔ payment ∈ payments ∧ IsSought query payment := by
  rw [search_eq, (sorted_perm _).mem_iff, List.mem_filter, decide_eq_true_iff]

/-- The empty query is in every text. -/
theorem isSought_empty (payment : Payment) : IsSought "" payment :=
  .inl ⟨payment.description, .description payment, List.nil_infix⟩

/-! ## Both -/

/-- Sorting gives the one arrangement of some payments, those of a day and those of a search are
selections by their conditions, an empty query finds all, and a request is found by its address. -/
theorem queries_select (payments : List Payment) :
    (∀ arranged, Arranges payments arranged ↔ arranged = sorted payments) ∧
      (∀ screen today, Selects (IsShown screen today) (ofDay screen today) payments) ∧
      (∀ query, Selects (IsSought query) (search query) payments) ∧
      search "" payments = sorted payments ∧
      ∀ r, .request r ∈ payments → .request r ∈ search r.address payments := by
  refine ⟨fun arranged => arranges_iff, fun screen today => ?_, fun query => ?_, ?_, ?_⟩
  · exact selects_of_eq (ofDay_eq screen today) payments
  · exact selects_of_eq (search_eq query) payments
  · rw [search_eq, List.filter_eq_self.2]
    intro payment _
    exact decide_eq_true (isSought_empty payment)
  · intro r listed
    exact mem_search_iff.2 ⟨listed, .inr ⟨r, rfl, rfl⟩⟩

/-- Amounts beyond the largest signed word tie, so these two stay as they came. -/
example :
    let larger : PaymentRequest := { address := "a", amount := 2 ^ 64 - 1, date := .epoch }
    let smaller : PaymentRequest := { address := "b", amount := 2 ^ 63, date := .epoch }
    sorted [.request larger, .request smaller] = [.request larger, .request smaller] := by
  cbv

end PaymentVault.Payment
