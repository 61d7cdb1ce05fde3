/-
A role lists its accounts in the order they were granted it.

A role keeps two tables, the place of each account and the account at each
place, and the place of the next grant. They hold together because the
tables are inverse to each other and every place in use comes before the
next one (`RoleSet.Kept`). So a grant puts its account last in the table of
places, which is read in ascending order, and a revocation leaves the
others where they stand. The induction over calls on both roles carries
this invariant and one list for each role (`Bridge.Tracks`): an account is
appended where it is granted the role and deleted where it loses it
(`Role.roster`). Nothing else of the two tables can be observed, and the
list alone says which call succeeds, until the places are used up.
-/
import TokenBridge.Proofs.Arithmetic

namespace TokenBridge

-- ================================================================== one role

namespace RoleSet

variable {set set' : RoleSet} {account : Address}

/-- The two tables are inverse to each other, and the places yet to be given
come after those in use. -/
structure Kept (set : RoleSet) : Prop where
  /-- Accounts and places are each other's. -/
  inverse : ∀ {account place}, set.places.get? account = some place ↔
    set.order.get? place = some account
  /-- No place is in use that is still to come. -/
  below : ∀ {account place}, set.order.get? place = some account →
    place < set.next

/-- The empty role has no place to disagree about. -/
theorem Kept.empty : RoleSet.empty.Kept := by
  refine ⟨fun {account place} => ?_, nofun⟩
  show Table.empty.get? account = some place ↔
    Table.empty.get? place = some account
  simp

/-- An account is a member exactly when it has a place. -/
theorem contains_iff :
    set.contains account = true ↔
      ∃ place, set.places.get? account = some place := by
  unfold contains Table.contains
  exact Option.isSome_iff_exists

theorem next_revoke : (set.revoke account).next = set.next := by
  unfold revoke
  split <;> rfl

namespace Kept

/-- The members are the accounts with a place. -/
theorem mem_members_iff (h : set.Kept) :
    account ∈ set.members ↔ set.contains account = true := by
  unfold members
  rw [Table.mem_values_iff, contains_iff]
  exact exists_congr fun place => h.inverse.symm

/-- No account has two places. -/
theorem nodup_members (h : set.Kept) : set.members.Nodup := by
  refine List.pairwise_map.mpr (set.order.ascending.imp_of_mem ?_)
  intro e e' he he' hlt heq
  have hplace := h.inverse.mpr (Table.get?_eq_some_iff.mpr he)
  have hplace' := h.inverse.mpr (Table.get?_eq_some_iff.mpr he')
  rw [heq, hplace'] at hplace
  rw [Option.some.inj hplace] at hlt
  simp [Std.ReflCmp.compare_self] at hlt

/-- A grant comes last. -/
theorem members_grant (h : set.Kept)
    (hset : set.grant? account = some set') :
    set'.members = set.members ++ [account] := by
  unfold grant? at hset
  split at hset
  · cases hset
  · cases hset
    exact Table.values_insert_last account fun place a ha =>
      Std.LawfulLTCmp.eq_lt_iff_lt.mpr (h.below ha)

/-- A revocation leaves the others in their order. -/
theorem members_revoke (h : set.Kept) :
    (set.revoke account).members = set.members.erase account := by
  unfold revoke
  cases hplace : set.places.get? account with
  | some place => exact Table.values_erase (h.inverse.mp hplace) h.nodup_members
  | none =>
      have habsent : account ∉ set.members := by
        rw [h.mem_members_iff, contains_iff, hplace]
        simp
      rw [List.erase_of_not_mem habsent]

/-- A grant to a new account takes the next place, which no one has had. -/
theorem grant (h : set.Kept) (absent : set.contains account = false)
    (hset : set.grant? account = some set') : set'.Kept := by
  have hnext := next_of_grant? hset
  have hfree : ∀ place, set.places.get? account ≠ some place := by
    intro place hplace
    rw [contains_iff.mpr ⟨place, hplace⟩] at absent
    cases absent
  unfold grant? at hset
  split at hset
  · cases hset
  · cases hset
    refine ⟨fun {a place} => ?inverse, fun {a place} ha => ?below⟩
    case inverse =>
      show (set.places.insert account set.next).get? a = some place ↔
        (set.order.insert set.next account).get? place = some a
      rw [Table.get?_insert, Table.get?_insert]
      -- the two tables are written at the same place and account, so they
      -- agree there and elsewhere
      by_cases haccount : account = a
      · by_cases hlast : set.next = place
        · simp [haccount, hlast]
        · subst haccount
          rw [if_pos rfl, if_neg hlast, ← h.inverse]
          simp [hlast, hfree]
      · by_cases hlast : set.next = place
        · subst hlast
          rw [if_neg haccount, if_pos rfl, h.inverse]
          have hunused : set.order.get? set.next ≠ some a := fun hused =>
            UInt64.lt_irrefl _ (h.below hused)
          simp [haccount, hunused]
        · rw [if_neg haccount, if_neg hlast]
          exact h.inverse
    case below =>
      rw [Table.get?_insert] at ha
      rw [UInt64.lt_iff_toNat_lt, hnext]
      by_cases hlast : set.next = place
      · rw [hlast]
        omega
      · rw [if_neg hlast] at ha
        have := UInt64.lt_iff_toNat_lt.mp (h.below ha)
        omega

/-- Revoking an account empties its place on both sides. -/
theorem revoke (h : set.Kept) : (set.revoke account).Kept := by
  unfold RoleSet.revoke
  cases hplace : set.places.get? account with
  | none => exact h
  | some used =>
      have hused := h.inverse.mp hplace
      refine ⟨fun {a place} => ?inverse, fun {a place} ha => ?below⟩
      case inverse =>
        show (set.places.erase account).get? a = some place ↔
          (set.order.erase used).get? place = some a
        rw [Table.get?_erase, Table.get?_erase]
        by_cases haccount : account = a
        · subst haccount
          rw [if_pos rfl]
          by_cases hsame : used = place
          · simp [hsame]
          · rw [if_neg hsame, ← h.inverse, hplace]
            simp [hsame]
        · rw [if_neg haccount]
          by_cases hsame : used = place
          · subst hsame
            rw [if_pos rfl, h.inverse, hused]
            simp [haccount]
          · rw [if_neg hsame]
            exact h.inverse
      case below =>
        rw [Table.get?_erase] at ha
        by_cases hsame : used = place
        · rw [if_pos hsame] at ha
          cases ha
        · rw [if_neg hsame] at ha
          exact h.below ha

end Kept

end RoleSet

-- ==================================================================== the calls

/-- A call on one of the roles. -/
inductive RoleCall
  | grant (role : Role) (account : Address)
  | revoke (role : Role) (account : Address)
deriving DecidableEq

/-- The role that a call is about. -/
def RoleCall.role : RoleCall → Role
  | .grant role _ => role
  | .revoke role _ => role

/-- What a call makes of a bridge. -/
def RoleCall.on (b : Bridge) : RoleCall → Outcome Bridge
  | .grant role account => b.grantRole role account
  | .revoke role account => b.revokeRole role account

/-- A bridge after a call, which leaves it as it was if it fails. -/
def Bridge.called (b : Bridge) (call : RoleCall) : Bridge :=
  match call.on b with
  | .ok b' => b'
  | .error _ => b

/-- A bridge after calls, one on what the other leaves. -/
def Bridge.calledAll (b : Bridge) (calls : List RoleCall) : Bridge :=
  calls.foldl called b

/-- A call that goes through leads to its bridge. -/
theorem Bridge.called_of_ok {b b' : Bridge} {call : RoleCall}
    (h : call.on b = .ok b') : b.called call = b' := by
  unfold called
  rw [h]

theorem Bridge.called_of_error {b : Bridge} {call : RoleCall}
    {e : BridgeError} (h : call.on b = .error e) : b.called call = b := by
  unfold called
  rw [h]

/-- Those of the calls that succeed, in order. -/
def Bridge.successes (b : Bridge) : List RoleCall → List RoleCall
  | [] => []
  | call :: rest =>
    (if (call.on b).isOk then [call] else []) ++ (b.called call).successes rest

-- ================================================================== the rosters

/-- What a call that succeeds makes of the list of a role. -/
def Role.enter (role : Role) (members : List Address) :
    RoleCall → List Address
  | .grant role' account =>
    if role' = role then members ++ [account] else members
  | .revoke role' account =>
    if role' = role then members.erase account else members

/-- The list of a role after calls that succeed. -/
def Role.roster (role : Role) (done : List RoleCall) : List Address :=
  done.foldl role.enter []

/-- A call that grants a role uses one place of it. -/
def RoleCall.grants (role : Role) : RoleCall → Bool
  | .grant role' _ => role' = role
  | .revoke _ _ => false

/-- The places that calls have used up. -/
def Role.placesUsed (role : Role) (done : List RoleCall) : Nat :=
  done.countP (·.grants role)

/-- One more call is entered at the end of the roster. -/
theorem Role.roster_append (role : Role) (done : List RoleCall)
    (call : RoleCall) :
    role.roster (done ++ [call]) = role.enter (role.roster done) call := by
  unfold roster
  rw [List.foldl_append]
  rfl

/-- One more call uses one more place, if it is a grant. -/
theorem Role.placesUsed_append (role : Role) (done : List RoleCall)
    (call : RoleCall) :
    role.placesUsed (done ++ [call])
      = role.placesUsed done + if call.grants role then 1 else 0 := by
  unfold placesUsed
  rw [List.countP_append, List.countP_singleton]

/-- A call is of no concern to the other role. -/
theorem RoleCall.role_on {b b' : Bridge} {call : RoleCall} {role : Role}
    (h : call.on b = .ok b') (other : call.role ≠ role) :
    b'.role role = b.role role := by
  cases call with
  | grant =>
      obtain ⟨-, set, -, rfl⟩ := Bridge.grantRole_eq_ok h
      exact Bridge.role_setRole_ne other set
  | revoke =>
      obtain ⟨-, rfl⟩ := Bridge.revokeRole_eq_ok h
      exact Bridge.role_setRole_ne other _

/-- The calls that have succeeded so far, as a role shows them. -/
structure Bridge.Tracks (b : Bridge) (done : List RoleCall) (role : Role) :
    Prop where
  kept : (b.role role).Kept
  members : (b.role role).members = role.roster done
  next : (b.role role).next.toNat = role.placesUsed done

namespace Bridge.Tracks

variable {b b' : Bridge} {done : List RoleCall} {role : Role}

theorem blank (role : Role) : Bridge.blank.Tracks [] role := by
  cases role with
  | operator => exact ⟨.empty, rfl, rfl⟩
  | canceler => exact ⟨.empty, rfl, rfl⟩

/-- One more call that succeeds. -/
theorem call (h : b.Tracks done role) {call : RoleCall}
    (hcall : call.on b = .ok b') : b'.Tracks (done ++ [call]) role := by
  -- a call on this role writes its set; one on the other leaves it as it is
  by_cases hrole : call.role = role
  · subst hrole
    cases call with
    | grant role account =>
        obtain ⟨habsent, set, hset, rfl⟩ := grantRole_eq_ok hcall
        change (b.role role).contains account = false at habsent
        refine ⟨?kept, ?members, ?next⟩
        case kept =>
          rw [RoleCall.role, role_setRole]
          exact h.kept.grant habsent hset
        case members =>
          rw [Role.roster_append, ← h.members]
          simp only [RoleCall.role, role_setRole, Role.enter, if_true]
          exact h.kept.members_grant hset
        case next =>
          rw [Role.placesUsed_append, ← h.next]
          simp only [RoleCall.role, role_setRole, RoleCall.grants,
            decide_true, if_true]
          exact RoleSet.next_of_grant? hset
    | revoke role account =>
        obtain ⟨-, rfl⟩ := revokeRole_eq_ok hcall
        refine ⟨?kept, ?members, ?next⟩
        case kept =>
          rw [RoleCall.role, role_setRole]
          exact h.kept.revoke
        case members =>
          rw [Role.roster_append, ← h.members]
          simp only [RoleCall.role, role_setRole, Role.enter, if_true]
          exact h.kept.members_revoke
        case next =>
          rw [Role.placesUsed_append, ← h.next]
          simp only [RoleCall.role, role_setRole, RoleSet.next_revoke,
            RoleCall.grants, Bool.false_eq_true, if_false, Nat.add_zero]
  · have hsame := RoleCall.role_on hcall hrole
    have henter : role.enter (role.roster done) call = role.roster done := by
      cases call <;> exact if_neg hrole
    have hgrants : call.grants role = false := by
      cases call with
      | grant => exact decide_eq_false hrole
      | revoke => rfl
    refine ⟨?kept, ?members, ?next⟩
    case kept =>
      rw [hsame]
      exact h.kept
    case members =>
      rw [hsame, Role.roster_append, henter]
      exact h.members
    case next =>
      rw [hsame, Role.placesUsed_append, hgrants]
      exact h.next

/-- Any calls, of which those that succeed are kept track of. -/
theorem calls (h : b.Tracks done role) (calls : List RoleCall) :
    (b.calledAll calls).Tracks (done ++ b.successes calls) role := by
  induction calls generalizing b done with
  | nil =>
      rw [successes, List.append_nil]
      exact h
  | cons call rest ih =>
      show ((b.called call).calledAll rest).Tracks _ role
      unfold successes
      cases hcall : call.on b with
      | ok b' =>
          rw [called_of_ok hcall, ← List.append_assoc]
          exact ih (h.call hcall)
      | error e =>
          rw [called_of_error hcall]
          exact ih h

end Bridge.Tracks

-- =============================================================== what succeeds

section

variable {b : Bridge} {role : Role} {account : Address}

/-- A grant is refused for a member exactly. -/
theorem Bridge.grantRole_refused_iff :
    b.grantRole role account = .error (.roleAlreadyGranted role account) ↔
      (b.role role).contains account = true := by
  unfold grantRole
  cases hcontains : (b.role role).contains account with
  | true => exact iff_of_true (by simp only [hcontains]; rfl) rfl
  | false =>
      refine iff_of_false (fun h => ?_) Bool.false_ne_true
      simp only [hcontains] at h
      cases hset : (b.role role).grant? account with
      | some set =>
          rw [hset] at h
          cases h
      | none =>
          rw [hset] at h
          cases h

/-- A grant goes through for anyone else while a place is left. -/
theorem Bridge.grantRole_accepted_iff :
    (∃ b', b.grantRole role account = .ok b') ↔
      (b.role role).contains account = false
        ∧ (b.role role).next ≠ maxWord64 := by
  rw [Ne, ← RoleSet.grant?_eq_none_iff, ← Ne, Option.ne_none_iff_exists']
  constructor
  · rintro ⟨b', h⟩
    obtain ⟨habsent, set, hset, -⟩ := grantRole_eq_ok h
    exact ⟨habsent, set, hset⟩
  · rintro ⟨habsent, set, hset⟩
    refine ⟨b.setRole role set, ?_⟩
    simp only [grantRole, habsent, hset]
    rfl

/-- A revocation is refused exactly for one who is no member. -/
theorem Bridge.revokeRole_refused_iff :
    b.revokeRole role account = .error (.roleNotGranted role account) ↔
      (b.role role).contains account = false := by
  unfold revokeRole
  cases hcontains : (b.role role).contains account with
  | false => exact iff_of_true (by simp only [hcontains]; rfl) rfl
  | true =>
      refine iff_of_false (fun h => ?_) Bool.false_ne_true.symm
      simp only [hcontains] at h
      cases h

/-- It goes through exactly for a member. -/
theorem Bridge.revokeRole_accepted_iff :
    (∃ b', b.revokeRole role account = .ok b') ↔
      (b.role role).contains account = true := by
  constructor
  · rintro ⟨b', h⟩
    exact (revokeRole_eq_ok h).1
  · intro h
    refine ⟨b.setRole role ((b.role role).revoke account), ?_⟩
    simp only [revokeRole, h]
    rfl

end

/-- A role that is nothing but a list of accounts: who has it, in which order,
and what a further call on it does while there are places. -/
structure Bridge.ListsAs (b : Bridge) (role : Role) (roster : List Address)
    (used : Nat) : Prop where
  members : (b.role role).members = roster
  distinct : roster.Nodup
  contains : ∀ a, (b.role role).contains a = true ↔ a ∈ roster
  grantRefused : ∀ a,
    b.grantRole role a = .error (.roleAlreadyGranted role a) ↔ a ∈ roster
  /-- A role is full once the places are used up, even if some were given
  back. -/
  grantAccepted : ∀ a, (∃ b', b.grantRole role a = .ok b') ↔
    a ∉ roster ∧ used + 1 < 2 ^ 64
  revokeRefused : ∀ a,
    b.revokeRole role a = .error (.roleNotGranted role a) ↔ a ∉ roster
  revokeAccepted : ∀ a, (∃ b', b.revokeRole role a = .ok b') ↔ a ∈ roster

/-- A role that tracks its calls lists what its roster says. -/
theorem Bridge.Tracks.listsAs {b : Bridge} {done : List RoleCall} {role : Role}
    (h : b.Tracks done role) :
    b.ListsAs role (role.roster done) (role.placesUsed done) := by
  have hmem : ∀ a, (b.role role).contains a = true ↔ a ∈ role.roster done := by
    intro a
    rw [← h.members]
    exact h.kept.mem_members_iff.symm
  have hnot : ∀ a, (b.role role).contains a = false ↔
      a ∉ role.roster done := by
    intro a
    rw [← hmem, Bool.not_eq_true]
  have hroom : (b.role role).next ≠ maxWord64 ↔
      role.placesUsed done + 1 < 2 ^ 64 := by
    have hlt := (b.role role).next.toNat_lt
    rw [← h.next, Ne, ← UInt64.toNat_inj]
    show ¬ _ = 0xffffffffffffffff ↔ _
    omega
  refine ⟨h.members, ?_, hmem, fun a => ?_, fun a => ?_, fun a => ?_,
    fun a => ?_⟩
  · rw [← h.members]
    exact h.kept.nodup_members
  · rw [grantRole_refused_iff, hmem]
  · rw [grantRole_accepted_iff, hnot, hroom]
  · rw [revokeRole_refused_iff, hnot]
  · rw [revokeRole_accepted_iff, hmem]

/-- From empty storage on, whatever calls are made on the two roles and in
whatever order, each role is the list of the accounts that were granted it
and did not lose it, in the order of the grants. A call that fails changes
nothing, and a call on one role nothing of the other. -/
theorem Bridge.roles_are_lists (calls : List RoleCall) :
    (∀ role, (blank.calledAll calls).ListsAs role
        (role.roster (blank.successes calls))
        (role.placesUsed (blank.successes calls)))
      ∧ (∀ (call : RoleCall) e, call.on (blank.calledAll calls) = .error e →
          blank.calledAll (calls ++ [call]) = blank.calledAll calls)
      ∧ ∀ (call : RoleCall) b' role,
          call.on (blank.calledAll calls) = .ok b' → call.role ≠ role →
            b'.role role = (blank.calledAll calls).role role := by
  refine ⟨fun role => ?lists, fun call e hfails => ?failure,
    fun call b' role hcall other => RoleCall.role_on hcall other⟩
  case lists => exact ((Tracks.blank role).calls calls).listsAs
  case failure =>
    unfold calledAll at hfails ⊢
    rw [List.foldl_append]
    exact called_of_error hfails

/-- An account that is granted a role again comes last, and a second role has
a list of its own. -/
example :
    let b := Bridge.blank.calledAll
      [.grant .operator "c", .grant .operator "a", .grant .canceler "a",
        .grant .operator "b", .revoke .operator "a", .grant .operator "a"]
    b.operators.members = ["c", "b", "a"]
      ∧ b.cancelers.members = ["a"] := by
  decide +kernel

end TokenBridge
