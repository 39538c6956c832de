import AbstractFramework.Challenge.Ballots

/-! # Friends

The friends of a challenge are compared by the addresses that they stand for, an account by
the one the registry has for it, and taken off the list as they are written.  While the
registry does not change the address of an account, the addresses of a challenge's friends
stay different and bounded, and so a vote on the challenge can always be opened.
-/

namespace AbstractFramework.Challenge

open AbstractFramework Fallible Storage Effects Voting

variable {s s' : ChallengeState} {deps : AppDeps} {c : Call} {r : Response} {challengeId : Nat}
  {accounts : AccountId → Option Addr} {friends : List (Friend Addr)}

/-- The accounts that the call sees have their fixed addresses. -/
def Fixed (accounts : AccountId → Option Addr) (deps : AppDeps) : Prop :=
  ∀ accountId addr, deps.account accountId = .ok addr → accounts accountId = some addr

/-- The friends stand for different addresses, and are fewer than the maximum. -/
structure UniqueFriends (accounts : AccountId → Option Addr) (friends : List (Friend Addr)) : Prop where
  resolved : ∀ friend ∈ friends, (friend.addressIn accounts).isSome
  distinct : (friends.map (Friend.addressIn accounts)).Nodup
  bounded : friends.length < MAX_AMOUNT_OF_FRIENDS

/-! ## Addresses of friends -/

theorem Friend.check_ok {friend : Friend String} {checked : Addr × Friend Addr}
    (fixed : Fixed accounts deps) (h : friend.check deps = .ok checked) :
    checked.2.addressIn accounts = some checked.1 := by
  cases friend with
  | ByAddr address name =>
    simp only [Friend.check, bind_eq_ok, pure_eq_ok] at h
    obtain ⟨_, -, _, -, rfl⟩ := h
    rfl
  | AbstractAccount accountId =>
    simp only [Friend.check, sdk, bind_eq_ok, mapError_eq_ok, pure_eq_ok] at h
    obtain ⟨_, -, base, found, rfl⟩ := h
    exact fixed accountId base found

theorem map_addressIn_of_check {unchecked : List (Friend String)} {validated : List (Addr × Friend Addr)}
    (fixed : Fixed accounts deps) (h : unchecked.mapM (Friend.check deps) = .ok validated) :
    (validated.map Prod.snd).map (Friend.addressIn accounts) =
      (validated.map Prod.fst).map some := by
  rw [List.map_map, List.map_map]
  refine List.map_congr_left fun checked listed => ?_
  obtain ⟨friend, -, checks⟩ := forall₂_exists_left (mapM_eq_ok.mp h) checked listed
  exact Friend.check_ok fixed checks

/-- Friends that are resolved to different addresses. -/
theorem uniqueFriends_of_addrs {addrs : List Addr}
    (same : friends.map (Friend.addressIn accounts) = addrs.map some) (distinct : addrs.Nodup)
    (bounded : friends.length < MAX_AMOUNT_OF_FRIENDS) : UniqueFriends accounts friends where
  resolved friend listed := by
    have mapped := List.mem_map_of_mem (f := Friend.addressIn accounts) listed
    rw [same] at mapped
    obtain ⟨addr, -, found⟩ := List.mem_map.mp mapped
    rw [← found]
    rfl
  distinct := by
    rw [same]
    exact distinct.map (Option.some_injective Addr)
  bounded

theorem UniqueFriends.sublist {fewer : List (Friend Addr)} (unique : UniqueFriends accounts friends)
    (sub : fewer.Sublist friends) : UniqueFriends accounts fewer where
  resolved friend listed := unique.resolved friend (sub.subset listed)
  distinct := unique.distinct.sublist (sub.map _)
  bounded := Nat.lt_of_le_of_lt sub.length_le unique.bounded

/-! ## Calls -/

/-- Every list of friends is a unique one. -/
def FriendsKept (accounts : AccountId → Option Addr) (s : ChallengeState) : Prop :=
  ∀ challengeId friends, s.challengeFriends.lookup challengeId = some friends →
    UniqueFriends accounts friends

theorem FriendsKept.insert (kept : FriendsKept accounts s) (unique : UniqueFriends accounts friends)
    (written : s'.challengeFriends = s.challengeFriends.insert challengeId friends) :
    FriendsKept accounts s' := by
  intro other list found
  rw [written] at found
  rcases lookup_insert_cases found with ⟨rfl, rfl⟩ | ⟨_, old⟩
  · exact unique
  · exact kept other list old

theorem createChallenge_unique {info : MessageInfo} {challengeReq : ChallengeRequest}
    (fixed : Fixed accounts deps) (kept : FriendsKept accounts s)
    (ok : createChallenge deps info challengeReq s = .ok (s', r)) : FriendsKept accounts s' := by
  simp only [createChallenge, bind_eq_ok, ensure_eq_ok, pure_eq_ok, Prod.mk.injEq] at ok
  obtain ⟨_, -, _, few, validated, checked, _, distinct, id, -, next, -, _, -, entry, -, rfl, -⟩ := ok
  refine kept.insert (uniqueFriends_of_addrs (map_addressIn_of_check fixed checked) distinct ?_) rfl
  rw [List.length_map, ← (mapM_eq_ok.mp checked).length_eq]
  exact few

theorem addFriends_unique {unchecked : List (Friend String)} {validated : List (Addr × Friend Addr)}
    (fixed : Fixed accounts deps) (checked : unchecked.mapM (Friend.check deps) = .ok validated)
    (kept : FriendsKept accounts s) (ok : addFriends deps challengeId validated s = .ok s') :
    FriendsKept accounts s' := by
  simp only [addFriends, bind_eq_ok, okOr_eq_ok, ensure_eq_ok, pure_eq_ok] at ok
  obtain ⟨current, -, _, few, addrs, resolved, _, distinct, rfl⟩ := ok
  refine kept.insert (uniqueFriends_of_addrs ?_ distinct ?_) rfl
  · rw [List.map_append, List.map_append, Friend.map_addressIn fixed resolved,
      map_addressIn_of_check fixed checked]
  · rw [List.length_append, List.length_map, Nat.add_comm]
    exact few

theorem removeFriends_unique {removed : List (Friend Addr)} (kept : FriendsKept accounts s)
    (ok : removeFriends challengeId removed s = .ok s') : FriendsKept accounts s' := by
  simp only [removeFriends, bind_eq_ok, okOr_eq_ok, pure_eq_ok] at ok
  obtain ⟨current, found, rfl⟩ := ok
  have fewer : (removed.foldl (fun currentFriends remFriend =>
      currentFriends.filter (· ≠ remFriend)) current).Sublist current := by
    clear found
    induction removed generalizing current with
    | nil => exact List.Sublist.refl current
    | cons friend removed ih => exact (ih _).trans List.filter_sublist
  exact kept.insert ((kept challengeId current found).sublist fewer) rfl

/-- The other calls leave the friends as they are. -/
theorem Did.challengeFriends (did : Did c s s')
    (notCreate : ∀ req, c.msg ≠ .CreateChallenge req)
    (notUpdate : ∀ id friends opKind, c.msg ≠ .UpdateFriendsForChallenge id friends opKind) :
    s'.challengeFriends = s.challengeFriends := by
  cases did with
  | created _ msg => exact absurd msg (notCreate _)
  | befriended _ msg => exact absurd msg (notUpdate _ _ _)
  | voted _ opened => cases opened <;> rfl
  | config | updated | canceled | counted | vetoed => rfl

theorem FriendsKept.exec (fixed : Fixed accounts c.deps) (kept : FriendsKept accounts s)
    (ok : exec c s = .ok (s', r)) : FriendsKept accounts s' := by
  by_cases create : ∃ req, c.msg = .CreateChallenge req
  · obtain ⟨req, msg⟩ := create
    have ok := (exec_eq_ok.mp ok).1
    simp only [executeHandler, msg] at ok
    exact createChallenge_unique fixed kept ok
  by_cases update : ∃ id friends opKind, c.msg = .UpdateFriendsForChallenge id friends opKind
  · obtain ⟨id, friends, opKind, msg⟩ := update
    have ok := (exec_eq_ok.mp ok).1
    simp only [executeHandler, msg] at ok
    cases opKind with
    | Add =>
      simp only [updateFriendsForChallenge, bind_eq_ok, pure_eq_ok, Prod.mk.injEq] at ok
      obtain ⟨_, -, validated, checked, _, -, m, edited, rfl, -⟩ := ok
      exact addFriends_unique fixed checked kept edited
    | Remove =>
      simp only [updateFriendsForChallenge, bind_eq_ok, pure_eq_ok, Prod.mk.injEq] at ok
      obtain ⟨_, -, validated, -, _, -, m, edited, rfl, -⟩ := ok
      exact removeFriends_unique kept edited
  · have same := (exec_did ok).challengeFriends (fun req msg => create ⟨req, msg⟩)
      fun id friends opKind msg => update ⟨id, friends, opKind, msg⟩
    intro challengeId list found
    rw [same] at found
    exact kept challengeId list found

/-! ## Proposals -/

/-- The error that stops a vote from being opened. -/
def IsDuplicate (e : AppFailure) : Prop := e = .error (.VoteError .DuplicateAddrs)

def IsDuplicateVote (e : Stop) : Prop := e = .error .DuplicateAddrs

theorem avoids_voting {α : Type} {x : VoteResult α}
    (quiet : Avoids IsDuplicateVote (call x s.simpleVoting).1) :
    Avoids IsDuplicate (voting x s) := by
  unfold voting
  cases found : call x s.simpleVoting with
  | mk result store =>
    rw [found] at quiet
    cases result with
    | ok a => exact avoids_ok _
    | error e =>
      cases e with
      | error e =>
        refine avoids_error fun bad => quiet _ rfl ?_
        cases bad
        rfl
      | panicked text => exact avoids_error (by simp [IsDuplicate])

/-- Machine arithmetic panics. -/
theorem avoids_checked {ε : Type} {bad : VoteFailure ε → Prop} {fits : Prop} [Decidable fits] {n : Nat}
    {text : String} (good : ¬ bad (.panicked text)) :
    Avoids bad (if fits then .ok n else .error (.panicked text)) := by
  split
  · exact avoids_ok n
  · exact avoids_error good

theorem avoids_plusSeconds {ε : Type} {bad : VoteFailure ε → Prop} (t : Timestamp) (addition : Nat)
    (good : ∀ text, ¬ bad (.panicked text)) : Avoids bad (plusSeconds t addition) :=
  (avoids_checked (good _)).bind fun _ _ => avoids_checked (good _)

theorem avoids_loadProposal_duplicate (block : BlockInfo) (proposalId : ProposalId)
    (store : VotingStore) : Avoids IsDuplicateVote (loadProposal block proposalId store) := by
  refine (avoids_okOr (by simp [IsDuplicateVote])).bind fun proposal _ => ?_
  split
  · refine (avoids_plusSeconds _ _ (by simp [IsDuplicateVote])).bind fun expiration _ => ?_
    split
    · split <;> exact avoids_pure _
    · exact avoids_pure _
  · exact avoids_pure _

theorem avoids_newProposal_duplicate {endTimestamp : Timestamp} {voters : Slice Addr}
    (distinct : voters.elems.Nodup) (store : VotingStore) :
    Avoids IsDuplicateVote (call (newProposal endTimestamp voters) store).1 := by
  have unique : Avoids IsDuplicateVote
      (ensure voters.elems.Nodup (VoteFailure.error VoteError.DuplicateAddrs)) := by
    rw [ensure, if_pos distinct]
    exact avoids_ok ()
  exact avoids_newProposal_of unique (by simp [IsDuplicateVote])
    (fun _ _ => avoids_checked (by simp [IsDuplicateVote])) endTimestamp

/-- A vote on a challenge with unique friends is opened or stopped by something else. -/
theorem avoids_createProposal {challenge : ChallengeEntry} (fixed : Fixed accounts deps)
    (kept : FriendsKept accounts s) :
    Avoids IsDuplicate (createProposal deps challengeId challenge s) := by
  refine (avoids_ensure (by simp [IsDuplicate])).bind fun _ _ => ?_
  refine (avoids_okOr (by simp [IsDuplicate])).bind fun friends found => ?_
  refine (avoids_mapM fun friend => ?_).bind fun addrs resolved => ?_
  · cases friend with
    | ByAddr address name => exact avoids_ok address
    | AbstractAccount accountId =>
      exact (avoids_mapError fun _ => by simp [IsDuplicate]).bind fun _ _ =>
        avoids_mapError fun _ => by simp [IsDuplicate]
  have distinct : addrs.Nodup := by
    have unique := (kept challengeId friends (okOr_eq_ok.mp found)).distinct
    rw [Friend.map_addressIn fixed resolved] at unique
    exact unique.of_map some
  refine (avoids_plusSeconds _ _ (by simp [IsDuplicate])).bind fun endTimestamp _ => ?_
  split
  · refine (avoids_voting (avoids_newProposal_duplicate distinct _)).bind fun _ _ => avoids_pure _
  · exact avoids_error (by simp [IsDuplicate])

theorem avoids_getOrCreateActiveProposal (fixed : Fixed accounts deps)
    (kept : FriendsKept accounts s) :
    Avoids IsDuplicate (getOrCreateActiveProposal deps challengeId s) := by
  refine (avoids_okOr (by simp [IsDuplicate])).bind fun challenge _ => ?_
  have quiet : Avoids IsDuplicate (activeProposal deps s (lastProposal challengeId s)) := by
    cases lastProposal challengeId s with
    | none => exact avoids_ok none
    | some proposalId =>
      have loads : Avoids IsDuplicateVote
          (call (reading (loadProposal deps.block proposalId)) s.simpleVoting).1 :=
        avoids_loadProposal_duplicate _ _ _
      exact (avoids_voting loads).bind fun _ _ => avoids_pure _
  refine quiet.bind fun active _ => ?_
  cases active with
  | some proposalId => exact avoids_pure _
  | none => exact avoids_createProposal fixed kept

/-- While accounts keep their addresses, the friends of every challenge stand for different
    addresses and are fewer than the maximum in every reachable state, and no vote is stopped
    from being opened by friends that occur twice. -/
theorem friends_unique {config : VoteConfig} {start : ChallengeState}
    (created : instantiateHandler config .empty = .ok start) (calls : List Call)
    (fixed : ∀ c ∈ calls, Fixed accounts c.deps) :
    (∀ challengeId friends,
      (run start calls).challengeFriends.lookup challengeId = some friends →
        (∀ friend ∈ friends, (friend.addressIn accounts).isSome) ∧
          (friends.map (Friend.addressIn accounts)).Nodup ∧
            friends.length < MAX_AMOUNT_OF_FRIENDS) ∧
    ∀ deps challengeId, Fixed accounts deps →
      getOrCreateActiveProposal deps challengeId (run start calls) ≠
        .error (.error (.VoteError .DuplicateAddrs)) := by
  have kept : FriendsKept accounts (run start calls) := by
    refine Machine.run_invariant_mem
      (fun s c s' r listed held ok => held.exec (fixed c listed) ok) ?_
    simp only [instantiateHandler, bind_eq_ok, pure_eq_ok, Prod.exists, voting_eq_ok] at created
    obtain ⟨_, _, ⟨store, -, rfl⟩, rfl⟩ := created
    intro challengeId friends found
    cases found
  constructor
  · intro challengeId friends found
    have unique := kept challengeId friends found
    exact ⟨unique.resolved, unique.distinct, unique.bounded⟩
  · intro deps challengeId agrees failed
    exact avoids_getOrCreateActiveProposal agrees kept _ failed rfl

section Sample

/-- The chain with an account that is called like a friend. -/
def depsWithAccount (seconds : Nat) : AppDeps :=
  { depsAt seconds with account := fun _ => .ok ⟨"alice"⟩ }

def befriend (seconds : Nat) (friends : List (Friend String)) (opKind : UpdateFriendsOpKind) : Call where
  deps := depsWithAccount seconds
  info := { sender := ⟨"admin"⟩, funds := [] }
  msg := .UpdateFriendsForChallenge 1 friends opKind
  accepts := richAccount

/-- Alice is a friend, is not added again as an account, and then takes the account's place. -/
def aliceTwice : List Call :=
  [callAt 0 "admin" (.CreateChallenge oneStrike), befriend 1 [.AbstractAccount (.ofLocal 1)] .Add,
    befriend 2 [.ByAddr "alice" "Alice"] .Remove, befriend 3 [.AbstractAccount (.ofLocal 1)] .Add]

theorem friends_unique_alice :
    (run newApp aliceTwice).challengeFriends.lookup 1 = some [.AbstractAccount (.ofLocal 1)] ∧
      ((run newApp (aliceTwice.take 2)).challengeFriends.lookup 1 = some [.ByAddr ⟨"alice"⟩ "Alice"]) ∧
      getOrCreateActiveProposal (depsWithAccount 4) 1 (run newApp aliceTwice) ≠
        .error (.error (.VoteError .DuplicateAddrs)) := by
  have fixed : ∀ c ∈ aliceTwice, Fixed (fun _ => some ⟨"alice"⟩) c.deps := by
    intro c listed
    simp only [aliceTwice, List.mem_cons, List.not_mem_nil, or_false] at listed
    rcases listed with rfl | rfl | rfl | rfl
    · intro accountId addr found
      cases found
    all_goals
      intro accountId addr found
      cases found
      rfl
  have created : instantiateHandler majority .empty = .ok newApp := rfl
  have unique := friends_unique created aliceTwice fixed
  refine ⟨by decide +kernel, by decide +kernel, unique.2 _ 1 ?_⟩
  intro accountId addr found
  cases found
  rfl

end Sample

end AbstractFramework.Challenge
