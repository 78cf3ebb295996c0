import SwiftSsh.ChannelTable
import SwiftSsh.RunHistory

namespace SwiftSsh.ReceiveWindow

open SwiftSsh.ByteWords
open SwiftSsh.RustOutcome
open SwiftSsh.RunHistory
open SwiftSsh.WireTypes
open SwiftSsh.ChannelTable

/-- A call of a method of the channel table. -/
inductive Call where
  | openChannel (channelType : String)
  | acceptChannel (remoteId : UInt32) (channelType : String)
      (remoteWindow remoteMaxPacket : UInt32)
  | confirmChannel (localId remoteId remoteWindow remoteMaxPacket : UInt32)
  | receiveData (localId : UInt32) (data : Bytes)
  | consumeRemoteWindow (localId amount : UInt32)
  | adjustLocalWindow (localId amount : UInt32)
  | removeChannel (localId : UInt32)

/-- The channel that a call names. -/
def Call.localId : Call → Option UInt32
  | openChannel _ => none
  | acceptChannel _ _ _ _ => none
  | confirmChannel localId _ _ _ => some localId
  | receiveData localId _ => some localId
  | consumeRemoteWindow localId _ => some localId
  | adjustLocalWindow localId _ => some localId
  | removeChannel localId => some localId

/-- Whether a call gives out a number. -/
def Call.allocates : Call → Bool
  | openChannel _ => true
  | acceptChannel _ _ _ _ => true
  | _ => false

/-- What a call returns, as far as success goes, with the table it leaves. -/
def perform (manager : ChannelManager) : Call → Outcome SshError Unit × ChannelManager
  | .openChannel channelType => (.ok (), (ChannelTable.openChannel manager channelType).2)
  | .acceptChannel remoteId channelType remoteWindow remoteMaxPacket =>
      (.ok (), (ChannelTable.acceptChannel manager remoteId channelType remoteWindow
        remoteMaxPacket).2)
  | .confirmChannel localId remoteId remoteWindow remoteMaxPacket =>
      ChannelTable.confirmChannel manager localId remoteId remoteWindow remoteMaxPacket
  | .receiveData localId data => ChannelTable.receiveData manager localId data
  | .consumeRemoteWindow localId amount =>
      ChannelTable.consumeRemoteWindow manager localId amount
  | .adjustLocalWindow localId amount => ChannelTable.adjustLocalWindow manager localId amount
  | .removeChannel localId => (.ok (), (ChannelTable.removeChannel manager localId).2)

/-- The table after a call. -/
def afterCall (manager : ChannelManager) (call : Call) : ChannelManager :=
  (perform manager call).2

/-- An amount granted to a channel. -/
structure Grant where
  localId : UInt32
  amount : Nat

/-- What a call grants, if it succeeds. -/
def grantsIn (manager : ChannelManager) (call : Call) : List Grant :=
  match call, (perform manager call).1 with
  | .adjustLocalWindow localId amount, .ok _ => [⟨localId, amount.toNat⟩]
  | _, _ => []

/-- The channel table as a machine that serves calls. -/
def table : Machine ChannelManager Call Grant :=
  ⟨afterCall, grantsIn⟩

/-- The table after some calls. -/
def tableAfter (calls : List Call) : ChannelManager :=
  table.after newChannelManager calls

/-- All that has been granted to a channel. -/
def granted (localId : UInt32) (grants : List Grant) : Nat :=
  ((grants.filter fun grant => grant.localId = localId).map Grant.amount).sum

/-- The credit that some calls have granted for a channel. -/
def grantedBy (localId : UInt32) (calls : List Call) : Nat :=
  granted localId (table.history newChannelManager calls)

/-- What a channel has received and may still receive is covered. -/
def Covered (calls : List Call) (manager : ChannelManager) : Prop :=
  ∀ localId channel, manager.get localId = some channel →
    channel.recvBuffer.length + channel.localWindow.toNat ≤
      defaultWindowSize.toNat + grantedBy localId calls

/-- One call keeps the accounts. -/
structure Sound (earlier : List Call) (call : Call) : Prop where
  covered : Covered (earlier ++ [call]) (afterCall (tableAfter earlier) call)
  received : ∀ localId data channel, call = .receiveData localId data →
    (tableAfter earlier).get localId = some channel →
    (perform (tableAfter earlier) call).1 = .ok () →
    ∃ changed, (afterCall (tableAfter earlier) call).get localId = some changed ∧
      changed.localWindow.toNat + data.length = channel.localWindow.toNat ∧
      changed.recvBuffer = channel.recvBuffer ++ data
  failed : ∀ error, (perform (tableAfter earlier) call).1 = .err error →
    afterCall (tableAfter earlier) call = tableAfter earlier
  others : ∀ localId channel, (tableAfter earlier).get localId = some channel →
    call.localId ≠ some localId →
    (afterCall (tableAfter earlier) call).get localId = some channel

/-- A slice so long that its length, cut to 32 bits, is within the window. -/
def Slips (manager : ChannelManager) (call : Call) : Prop :=
  ∃ localId data channel, call = .receiveData localId data ∧
    manager.get localId = some channel ∧ 2 ^ 32 ≤ data.length ∧
    data.length % 2 ^ 32 ≤ channel.localWindow.toNat

theorem toNat_saturatingAdd (a b : UInt32) :
    (saturatingAdd a b).toNat = min (a.toNat + b.toNat) (2 ^ 32 - 1) := by
  rw [saturatingAdd, UInt32.toNat_ofNat']
  omega

/-- What a call can do to the channel with a local number. -/
inductive Effect (manager : ChannelManager) (call : Call) (localId : UInt32) :
    Option Channel → Prop where
  | same : Effect manager call localId (manager.get localId)
  | allocated (channel : Channel) (hcall : call.allocates = true)
      (hnext : localId = manager.nextId) (hbuffer : channel.recvBuffer = [])
      (hwindow : channel.localWindow = defaultWindowSize) :
      Effect manager call localId (some channel)
  | removed (hcall : call = .removeChannel localId) : Effect manager call localId none
  | relabelled (channel changed : Channel) (hcall : call.localId = some localId)
      (hget : manager.get localId = some channel)
      (hbuffer : changed.recvBuffer = channel.recvBuffer)
      (hwindow : changed.localWindow = channel.localWindow) :
      Effect manager call localId (some changed)
  | received (channel : Channel) (data : Bytes) (hcall : call = .receiveData localId data)
      (hget : manager.get localId = some channel)
      (hfits : UInt32.ofNat data.length ≤ channel.localWindow) :
      Effect manager call localId (some { channel with
        localWindow := channel.localWindow - UInt32.ofNat data.length
        recvBuffer := channel.recvBuffer ++ data })
  | widened (channel : Channel) (amount : UInt32)
      (hcall : call = .adjustLocalWindow localId amount)
      (hget : manager.get localId = some channel)
      (hgrants : grantsIn manager call = [⟨localId, amount.toNat⟩]) :
      Effect manager call localId (some { channel with
        localWindow := saturatingAdd channel.localWindow amount })

section Changes

variable {manager : ChannelManager} {localId named : UInt32} {call : Call}
  {change : Channel → Outcome SshError Unit × Channel}

theorem get_changeLocal {channel : Channel} (hget : manager.get named = some channel)
    (localId : UInt32) :
    (changeLocal manager named change).2.get localId =
      if localId = named then some (change channel).2 else manager.get localId := by
  rw [changeLocal, hget]
  exact get_replace hget localId _

theorem changeLocal_of_missing (hmissing : manager.get named = none) :
    changeLocal manager named change =
      (.err (.channel s!"Unknown channel {named}"), manager) := by
  rw [changeLocal, hmissing]

theorem effect_changeLocal (hperform : perform manager call = changeLocal manager named change)
    (heffect : ∀ channel, manager.get named = some channel →
      Effect manager call named (some (change channel).2)) :
    Effect manager call localId ((afterCall manager call).get localId) := by
  rw [afterCall, hperform]
  cases hget : manager.get named with
  | some channel =>
      rw [get_changeLocal hget]
      split
      · rename_i heq
        rw [heq]
        exact heffect channel hget
      · exact .same
  | none =>
      rw [changeLocal_of_missing hget]
      exact .same

theorem Effect.unchanged {channel : Channel} (hget : manager.get named = some channel) :
    Effect manager call named (some channel) :=
  hget ▸ .same

theorem effect_afterCall (manager : ChannelManager) (call : Call) (localId : UInt32) :
    Effect manager call localId ((afterCall manager call).get localId) := by
  cases call with
  | openChannel channelType =>
      change Effect _ _ _ (ChannelManager.get ⟨manager.channels.insert _ _, _⟩ localId)
      rw [get_insert]
      split
      · rename_i hnext
        exact .allocated _ rfl hnext rfl rfl
      · exact .same
  | acceptChannel remoteId channelType remoteWindow remoteMaxPacket =>
      change Effect _ _ _ (ChannelManager.get ⟨manager.channels.insert _ _, _⟩ localId)
      rw [get_insert]
      split
      · rename_i hnext
        exact .allocated _ rfl hnext rfl rfl
      · exact .same
  | confirmChannel named remoteId remoteWindow remoteMaxPacket =>
      refine effect_changeLocal rfl fun channel hget => ?_
      exact .relabelled channel _ rfl hget rfl rfl
  | receiveData named data =>
      refine effect_changeLocal rfl fun channel hget => ?_
      split
      · exact .unchanged hget
      · rename_i hfits
        exact .received channel data rfl hget (UInt32.not_lt.mp hfits)
  | consumeRemoteWindow named amount =>
      refine effect_changeLocal rfl fun channel hget => ?_
      split
      · exact .unchanged hget
      · exact .relabelled channel _ rfl hget rfl rfl
  | adjustLocalWindow named amount =>
      refine effect_changeLocal rfl fun channel hget => ?_
      have hperform : (perform manager (.adjustLocalWindow named amount)).1 = .ok () := by
        change (changeLocal manager named _).1 = .ok ()
        rw [changeLocal, hget]
      refine .widened channel amount rfl hget ?_
      simp only [grantsIn, hperform]
  | removeChannel named =>
      change Effect _ _ _ (AList.lookup localId (manager.channels.erase named))
      by_cases heq : localId = named
      · subst heq
        rw [AList.lookup_erase]
        exact .removed rfl
      · rw [AList.lookup_erase_ne heq]
        exact .same

theorem nextId_afterCall (manager : ChannelManager) (call : Call) :
    (afterCall manager call).nextId =
      if call.allocates then manager.nextId + 1 else manager.nextId := by
  have hchange : ∀ (named : UInt32) (change : Channel → Outcome SshError Unit × Channel),
      (changeLocal manager named change).2.nextId = manager.nextId := by
    intro named change
    rw [changeLocal]
    split <;> rfl
  cases call with
  | openChannel channelType => rfl
  | acceptChannel remoteId channelType remoteWindow remoteMaxPacket => rfl
  | confirmChannel named remoteId remoteWindow remoteMaxPacket => exact hchange _ _
  | receiveData named data => exact hchange _ _
  | consumeRemoteWindow named amount => exact hchange _ _
  | adjustLocalWindow named amount => exact hchange _ _
  | removeChannel named => rfl

theorem changeLocal_of_err {error : SshError}
    (hkept : ∀ channel error, (change channel).1 = .err error → (change channel).2 = channel)
    (hfailed : (changeLocal manager named change).1 = .err error) :
    (changeLocal manager named change).2 = manager := by
  cases hget : manager.get named with
  | some channel =>
      rw [changeLocal, hget] at hfailed ⊢
      dsimp only at hfailed ⊢
      rw [hkept channel error hfailed, replace_self hget]
  | none => rw [changeLocal_of_missing hget]

/-- Every method makes its checks before it changes anything. -/
theorem afterCall_of_err {error : SshError} (hfailed : (perform manager call).1 = .err error) :
    afterCall manager call = manager := by
  cases call with
  | openChannel channelType => cases hfailed
  | acceptChannel remoteId channelType remoteWindow remoteMaxPacket => cases hfailed
  | confirmChannel named remoteId remoteWindow remoteMaxPacket =>
      refine changeLocal_of_err ?_ hfailed
      rintro channel error ⟨⟩
  | receiveData named data =>
      refine changeLocal_of_err ?_ hfailed
      intro channel error hchanged
      split at hchanged
      · rename_i hlong
        rw [if_pos hlong]
      · cases hchanged
  | consumeRemoteWindow named amount =>
      refine changeLocal_of_err ?_ hfailed
      intro channel error hchanged
      split at hchanged
      · rename_i hlarge
        rw [if_pos hlarge]
      · cases hchanged
  | adjustLocalWindow named amount =>
      refine changeLocal_of_err ?_ hfailed
      rintro channel error ⟨⟩
  | removeChannel named => cases hfailed

end Changes

/-- How many numbers the calls allocate. -/
def allocations (calls : List Call) : Nat :=
  (calls.filter Call.allocates).length

theorem allocations_concat (calls : List Call) (call : Call) :
    allocations (calls ++ [call]) = allocations calls + if call.allocates then 1 else 0 := by
  rw [allocations, List.filter_append, List.length_append]
  cases hallocates : call.allocates <;> simp [allocations, hallocates]

theorem allocations_le {calls earlier later : List Call} {call : Call}
    (heq : calls = earlier ++ call :: later) :
    allocations (earlier ++ [call]) ≤ allocations calls := by
  have hsplit : earlier ++ call :: later = (earlier ++ [call]) ++ later := List.append_cons _ _ _
  rw [heq, hsplit, allocations, allocations, List.filter_append _ later, List.length_append]
  exact Nat.le_add_right _ _

/-- The numbers in use are those given out so far. -/
structure Numbered (calls : List Call) (manager : ChannelManager) : Prop where
  nextId : manager.nextId = UInt32.ofNat (allocations calls)
  used : ∀ localId channel, manager.get localId = some channel →
    ∃ k, k < allocations calls ∧ localId = UInt32.ofNat k

theorem Numbered.fresh {calls : List Call} {manager : ChannelManager}
    (hnumbered : Numbered calls manager) (hcount : allocations calls < 2 ^ 32) :
    manager.get manager.nextId = none := by
  rw [Option.eq_none_iff_forall_ne_some]
  intro channel hget
  obtain ⟨k, hk, heq⟩ := hnumbered.used _ _ hget
  rw [hnumbered.nextId] at heq
  have hnat := congrArg UInt32.toNat heq
  rw [UInt32.toNat_ofNat', UInt32.toNat_ofNat'] at hnat
  omega

theorem Numbered.step {calls : List Call} {manager : ChannelManager} (call : Call)
    (hnumbered : Numbered calls manager) :
    Numbered (calls ++ [call]) (afterCall manager call) := by
  have hcount := allocations_concat calls call
  constructor
  · rw [nextId_afterCall, hcount, hnumbered.nextId]
    split
    · rw [UInt32.ofNat_add]
      rfl
    · rfl
  · intro localId channel hget
    have heffect := effect_afterCall manager call localId
    rw [hget] at heffect
    generalize hafter : some channel = after at heffect
    have hold : ∀ old, manager.get localId = some old →
        ∃ k, k < allocations (calls ++ [call]) ∧ localId = UInt32.ofNat k := by
      intro old hold
      obtain ⟨k, hk, heq⟩ := hnumbered.used _ _ hold
      exact ⟨k, by omega, heq⟩
    cases heffect with
    | same => exact hold channel hafter.symm
    | allocated fresh hcall hnext _ _ =>
        rw [hcall, if_pos rfl] at hcount
        exact ⟨allocations calls, by omega, hnext.trans hnumbered.nextId⟩
    | removed _ => cases hafter
    | relabelled old _ _ hget _ _ => exact hold old hget
    | received old _ _ hget _ => exact hold old hget
    | widened old _ _ hget _ => exact hold old hget

theorem granted_append (localId : UInt32) (first second : List Grant) :
    granted localId (first ++ second) = granted localId first + granted localId second := by
  rw [granted, List.filter_append, List.map_append, List.sum_append]
  rfl

theorem grantedBy_concat (localId : UInt32) (calls : List Call) (call : Call) :
    grantedBy localId (calls ++ [call]) =
      grantedBy localId calls + granted localId (grantsIn (tableAfter calls) call) := by
  rw [grantedBy, Machine.history_concat, granted_append]
  rfl

theorem toNat_length_of_not_slips {manager : ChannelManager} {localId : UInt32} {data : Bytes}
    {channel : Channel} (hslips : ¬Slips manager (.receiveData localId data))
    (hget : manager.get localId = some channel)
    (hfits : UInt32.ofNat data.length ≤ channel.localWindow) :
    (UInt32.ofNat data.length).toNat = data.length ∧
      data.length ≤ channel.localWindow.toNat := by
  have hmod : (UInt32.ofNat data.length).toNat = data.length % 2 ^ 32 := UInt32.toNat_ofNat'
  have hle : data.length % 2 ^ 32 ≤ channel.localWindow.toNat := by
    rw [← hmod]
    exact UInt32.le_iff_toNat_le.mp hfits
  have hshort : data.length < 2 ^ 32 := by
    by_contra hlong
    exact hslips ⟨localId, data, channel, rfl, hget, Nat.le_of_not_lt hlong, hle⟩
  rw [Nat.mod_eq_of_lt hshort] at hmod hle
  exact ⟨hmod, hle⟩

theorem covered_step {calls : List Call} {call : Call}
    (hcovered : Covered calls (tableAfter calls)) (hslips : ¬Slips (tableAfter calls) call) :
    Covered (calls ++ [call]) (afterCall (tableAfter calls) call) := by
  intro localId channel hget
  rw [grantedBy_concat]
  have heffect := effect_afterCall (tableAfter calls) call localId
  rw [hget] at heffect
  generalize hafter : some channel = after at heffect
  cases heffect with
  | same =>
      have hold := hcovered localId channel hafter.symm
      omega
  | allocated fresh _ _ hbuffer hwindow =>
      cases hafter
      rw [hbuffer, hwindow, List.length_nil]
      omega
  | removed _ => cases hafter
  | relabelled old _ _ hfound hbuffer hwindow =>
      cases hafter
      have hold := hcovered localId old hfound
      rw [hbuffer, hwindow]
      omega
  | received old data hcall hfound hfits =>
      cases hafter
      subst hcall
      have hold := hcovered localId old hfound
      obtain ⟨hlength, hle⟩ := toNat_length_of_not_slips hslips hfound hfits
      dsimp only
      rw [UInt32.toNat_sub_of_le _ _ hfits, hlength, List.length_append]
      omega
  | widened old amount hcall hfound hgrants =>
      cases hafter
      have hold := hcovered localId old hfound
      have hamount : granted localId [⟨localId, amount.toNat⟩] = amount.toNat := by
        simp [granted]
      dsimp only
      rw [hgrants, hamount, toNat_saturatingAdd]
      omega

theorem sound_step {calls : List Call} {call : Call}
    (hcovered : Covered calls (tableAfter calls)) (hnumbered : Numbered calls (tableAfter calls))
    (hslips : ¬Slips (tableAfter calls) call)
    (hcount : allocations (calls ++ [call]) < 2 ^ 32) : Sound calls call := by
  refine ⟨covered_step hcovered hslips, ?_, ?_, ?_⟩
  · rintro localId data channel rfl hget hperform
    change (changeLocal _ localId _).1 = _ at hperform
    rw [changeLocal, hget] at hperform
    dsimp only at hperform
    split at hperform
    · cases hperform
    · rename_i hwindow
      have hfits := UInt32.not_lt.mp hwindow
      obtain ⟨hlength, hle⟩ := toNat_length_of_not_slips hslips hget hfits
      refine ⟨_, (get_changeLocal hget localId).trans (if_pos rfl), ?_⟩
      rw [if_neg hwindow]
      refine ⟨?_, rfl⟩
      dsimp only
      rw [UInt32.toNat_sub_of_le _ _ hfits, hlength]
      omega
  · exact fun error hfailed => afterCall_of_err hfailed
  · intro localId channel hget hnamed
    have heffect := effect_afterCall (tableAfter calls) call localId
    generalize (afterCall (tableAfter calls) call).get localId = after at heffect ⊢
    cases heffect with
    | same => exact hget
    | allocated fresh hcall hnext _ _ =>
        rw [allocations_concat, hcall, if_pos rfl] at hcount
        rw [hnext, hnumbered.fresh (by omega)] at hget
        cases hget
    | removed hcall =>
        rw [hcall] at hnamed
        exact absurd rfl hnamed
    | relabelled old _ hcall _ _ _ => exact absurd hcall hnamed
    | received old data hcall _ _ =>
        rw [hcall] at hnamed
        exact absurd rfl hnamed
    | widened old amount hcall _ _ =>
        rw [hcall] at hnamed
        exact absurd rfl hnamed

/-- A slice that slips through is longer than any window. -/
theorem not_sound_of_slips {calls : List Call} {call : Call}
    (hslips : Slips (tableAfter calls) call) : ¬Sound calls call := by
  intro hsound
  obtain ⟨localId, data, channel, rfl, hget, hlong, hle⟩ := hslips
  have hfits : ¬UInt32.ofNat data.length > channel.localWindow := by
    rw [gt_iff_lt, UInt32.not_lt, UInt32.le_iff_toNat_le, UInt32.toNat_ofNat']
    exact hle
  have hperform : (perform (tableAfter calls) (.receiveData localId data)).1 = .ok () := by
    rw [perform, ChannelTable.receiveData, changeLocal, hget]
    dsimp only
    rw [if_neg hfits]
  obtain ⟨changed, -, hwindow, -⟩ := hsound.received _ _ channel rfl hget hperform
  have hbound := channel.localWindow.toNat_lt
  omega

/-- The accounts are kept over every sequence of calls in which no slice slips
through the comparison of lengths. -/
theorem sound_iff_no_slip (calls : List Call) (hcount : allocations calls < 2 ^ 32) :
    Machine.Always calls Sound ↔
      Machine.Always calls fun earlier call => ¬Slips (tableAfter earlier) call := by
  constructor
  · intro hsound earlier call later heq hslips
    exact not_sound_of_slips hslips (hsound earlier call later heq)
  · intro hslips
    have hstart : Covered [] newChannelManager ∧ Numbered [] newChannelManager := by
      have hempty : ∀ localId, newChannelManager.get localId = none := fun _ => rfl
      refine ⟨?_, rfl, ?_⟩
      · intro localId channel hget
        rw [hempty] at hget
        cases hget
      · intro localId channel hget
        rw [hempty] at hget
        cases hget
    refine @Machine.always_of_invariant _ _ _ table newChannelManager
      (fun earlier manager => Covered earlier manager ∧ Numbered earlier manager)
      (fun earlier call => ¬Slips (tableAfter earlier) call ∧
        allocations (earlier ++ [call]) < 2 ^ 32) Sound hstart ?_ calls ?_
    · rintro earlier call ⟨hcovered, hnumbered⟩ ⟨hslips, hcount⟩
      exact ⟨⟨covered_step hcovered hslips, hnumbered.step call⟩,
        sound_step hcovered hnumbered hslips hcount⟩
    · intro earlier call later heq
      exact ⟨hslips earlier call later heq, (allocations_le heq).trans_lt hcount⟩

/-- A channel that receives three bytes and is then given them back. -/
def sampleCalls : List Call :=
  [.openChannel "session", .receiveData 0 [1, 2, 3], .adjustLocalWindow 0 3]

theorem sound_sampleCalls : Machine.Always sampleCalls Sound := by
  refine (sound_iff_no_slip sampleCalls (by decide)).mpr ?_
  rintro earlier call later heq ⟨localId, data, channel, rfl, -, hlong, -⟩
  have hmem : Call.receiveData localId data ∈ sampleCalls := by
    rw [heq]
    exact List.mem_append_right _ List.mem_cons_self
  have hargs : localId = 0 ∧ data = [1, 2, 3] := by simpa [sampleCalls] using hmem
  rw [hargs.2] at hlong
  revert hlong
  decide

/-- 4 GiB are taken for no bytes at all. -/
theorem four_gigabytes_slip :
    ¬Machine.Always [.openChannel "session", .receiveData 0 (List.replicate (2 ^ 32) 0)]
      Sound := by
  intro hsound
  refine not_sound_of_slips ?_ (hsound [.openChannel "session"] _ [] rfl)
  refine ⟨0, _, newChannel 0 "session", rfl, rfl, ?_, ?_⟩
  · rw [List.length_replicate]
  · rw [List.length_replicate]
    decide

end SwiftSsh.ReceiveWindow
