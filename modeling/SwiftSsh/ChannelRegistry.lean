import Mathlib.Data.Finset.Card
import Mathlib.Data.Finset.Dedup
import SwiftSsh.ReceiveWindow

/-!
What a channel table is for: it gives out numbers in order and keeps a channel for each
of them until it is removed.
-/

namespace SwiftSsh.ChannelRegistry

open SwiftSsh.ByteWords
open SwiftSsh.RustOutcome
open SwiftSsh.RunHistory
open SwiftSsh.WireTypes
open SwiftSsh.ChannelTable
open SwiftSsh.ReceiveWindow

/-- How many channels are not closed. -/
def activeCount (manager : ChannelManager) : Nat :=
  (manager.channels.entries.filter fun entry => !entry.2.closed).length

/-- How many numbers have been given out, and which of them are in use. -/
structure Registry where
  count : Nat
  live : Finset Nat

/-- What a call changes in the registry. Only opening and removing channels matters. -/
def registryStep (registry : Registry) : Call → Registry
  | .openChannel _ => ⟨registry.count + 1, insert registry.count registry.live⟩
  | .acceptChannel _ _ _ _ => ⟨registry.count + 1, insert registry.count registry.live⟩
  | .removeChannel localId => { registry with live := registry.live.erase localId.toNat }
  | _ => registry

/-- The registry of a list of calls. -/
def registryAfter (calls : List Call) : Registry :=
  calls.foldl registryStep ⟨0, ∅⟩

/-- A table that keeps a channel for each number in use. -/
structure Keeps (registry : Registry) (manager : ChannelManager) : Prop where
  nextId : manager.nextId = UInt32.ofNat registry.count
  live : ∀ localId, (manager.get localId).isSome ↔ localId.toNat ∈ registry.live
  below : ∀ number ∈ registry.live, number < registry.count
  proper : ∀ localId channel, manager.get localId = some channel →
    channel.localId = localId ∧ channel.closed = false

/-- What the methods of a table return, by the registry. -/
structure Serves (registry : Registry) (manager : ChannelManager) : Prop where
  opened : ∀ channelType, (openChannel manager channelType).1 = UInt32.ofNat registry.count
  accepted : ∀ remoteId channelType remoteWindow remoteMaxPacket,
    (acceptChannel manager remoteId channelType remoteWindow remoteMaxPacket).1 =
      UInt32.ofNat registry.count
  found : ∀ localId, localId.toNat ∈ registry.live ↔
    ∃ channel, manager.get localId = some channel ∧ channel.localId = localId
  removed : ∀ localId, (removeChannel manager localId).1.isSome ↔
    localId.toNat ∈ registry.live
  unknown : ∀ call localId, call.localId = some localId → localId.toNat ∉ registry.live →
    call = .removeChannel localId ∨
      (perform manager call).1 = .err (.channel s!"Unknown channel {localId}")
  active : activeCount manager = registry.live.card

variable {registry : Registry} {manager : ChannelManager} {calls : List Call}

theorem registryAfter_concat (calls : List Call) (call : Call) :
    registryAfter (calls ++ [call]) = registryStep (registryAfter calls) call :=
  List.foldl_concat ..

theorem count_registryAfter (calls : List Call) :
    (registryAfter calls).count = allocations calls := by
  induction calls using List.reverseRecOn with
  | nil => rfl
  | append_singleton calls call ih =>
      rw [registryAfter_concat, allocations_concat, ← ih]
      cases call <;> rfl

theorem proper_changeLocal {named : UInt32}
    {change : Channel → Outcome SshError Unit × Channel}
    (hchange : ∀ channel, (change channel).2.localId = channel.localId ∧
      (change channel).2.closed = channel.closed)
    (hproper : ∀ localId channel, manager.get localId = some channel →
      channel.localId = localId ∧ channel.closed = false)
    {localId : UInt32} {channel : Channel}
    (hget : (changeLocal manager named change).2.get localId = some channel) :
    channel.localId = localId ∧ channel.closed = false := by
  cases hnamed : manager.get named with
  | some old =>
      rw [get_changeLocal hnamed] at hget
      split at hget
      · rename_i heq
        cases hget
        obtain ⟨hsameId, hsameClosed⟩ := hchange old
        rw [hsameId, hsameClosed, heq]
        exact hproper named old hnamed
      · exact hproper localId channel hget
  | none =>
      rw [changeLocal_of_missing hnamed] at hget
      exact hproper localId channel hget

theorem proper_afterCall (call : Call)
    (hproper : ∀ localId channel, manager.get localId = some channel →
      channel.localId = localId ∧ channel.closed = false)
    {localId : UInt32} {channel : Channel}
    (hget : (afterCall manager call).get localId = some channel) :
    channel.localId = localId ∧ channel.closed = false := by
  cases call with
  | openChannel channelType =>
      change ChannelManager.get ⟨manager.channels.insert _ _, _⟩ localId = _ at hget
      rw [get_insert] at hget
      split at hget
      · rename_i heq
        cases hget
        exact ⟨heq.symm, rfl⟩
      · exact hproper localId channel hget
  | acceptChannel remoteId channelType remoteWindow remoteMaxPacket =>
      change ChannelManager.get ⟨manager.channels.insert _ _, _⟩ localId = _ at hget
      rw [get_insert] at hget
      split at hget
      · rename_i heq
        cases hget
        exact ⟨heq.symm, rfl⟩
      · exact hproper localId channel hget
  | confirmChannel named remoteId remoteWindow remoteMaxPacket =>
      exact proper_changeLocal (fun _ => ⟨rfl, rfl⟩) hproper hget
  | receiveData named data =>
      refine proper_changeLocal ?_ hproper hget
      intro channel
      split <;> exact ⟨rfl, rfl⟩
  | consumeRemoteWindow named amount =>
      refine proper_changeLocal ?_ hproper hget
      intro channel
      split <;> exact ⟨rfl, rfl⟩
  | adjustLocalWindow named amount =>
      exact proper_changeLocal (fun _ => ⟨rfl, rfl⟩) hproper hget
  | removeChannel named =>
      change AList.lookup localId (manager.channels.erase named) = _ at hget
      by_cases heq : localId = named
      · subst heq
        rw [AList.lookup_erase] at hget
        cases hget
      · rw [AList.lookup_erase_ne heq] at hget
        exact hproper localId channel hget

theorem isSome_changeLocal {named : UInt32}
    {change : Channel → Outcome SshError Unit × Channel} (localId : UInt32) :
    ((changeLocal manager named change).2.get localId).isSome ↔
      (manager.get localId).isSome := by
  cases hnamed : manager.get named with
  | some old =>
      rw [get_changeLocal hnamed]
      split
      · rename_i heq
        rw [heq, hnamed]
        exact iff_of_true rfl rfl
      · rfl
  | none => rw [changeLocal_of_missing hnamed]

theorem isSome_insert (localId nextId : UInt32) (channel : Channel) :
    (ChannelManager.get ⟨manager.channels.insert manager.nextId channel, nextId⟩ localId).isSome ↔
      localId = manager.nextId ∨ (manager.get localId).isSome := by
  rw [get_insert]
  split
  · rename_i heq
    exact iff_of_true rfl (.inl heq)
  · rename_i hne
    exact ⟨.inr, fun hor => hor.resolve_left hne⟩

theorem toNat_eq_count (hkeeps : Keeps registry manager) (hcount : registry.count < 2 ^ 32)
    (localId : UInt32) : localId = manager.nextId ↔ localId.toNat = registry.count := by
  rw [hkeeps.nextId, ← UInt32.toNat_inj, UInt32.toNat_ofNat', Nat.mod_eq_of_lt hcount]

theorem keeps_allocated {call : Call} (hkeeps : Keeps registry manager)
    (hcount : registry.count < 2 ^ 32)
    (hallocates : call.allocates = true)
    (hstep : registryStep registry call =
      ⟨registry.count + 1, insert registry.count registry.live⟩)
    (hget : ∀ localId, ((afterCall manager call).get localId).isSome ↔
      localId = manager.nextId ∨ (manager.get localId).isSome) :
    Keeps (registryStep registry call) (afterCall manager call) := by
  rw [hstep]
  constructor
  · rw [nextId_afterCall, if_pos hallocates, hkeeps.nextId, UInt32.ofNat_add]
    rfl
  · intro localId
    rw [hget, Finset.mem_insert, toNat_eq_count hkeeps hcount, hkeeps.live]
  · intro number hmem
    rcases Finset.mem_insert.mp hmem with rfl | hold
    · exact Nat.lt_succ_self _
    · exact Nat.lt_succ_of_lt (hkeeps.below number hold)
  · exact fun localId channel hfound => proper_afterCall call hkeeps.proper hfound

theorem keeps_changed {call : Call} (hkeeps : Keeps registry manager)
    (hstep : registryStep registry call = registry) (hallocates : call.allocates = false)
    (hget : ∀ localId, ((afterCall manager call).get localId).isSome ↔
      (manager.get localId).isSome) :
    Keeps (registryStep registry call) (afterCall manager call) := by
  rw [hstep]
  constructor
  · rw [nextId_afterCall, if_neg (by rw [hallocates]; exact Bool.false_ne_true)]
    exact hkeeps.nextId
  · exact fun localId => (hget localId).trans (hkeeps.live localId)
  · exact hkeeps.below
  · exact fun localId channel hfound => proper_afterCall call hkeeps.proper hfound

theorem keeps_removed (hkeeps : Keeps registry manager) (named : UInt32) :
    Keeps (registryStep registry (.removeChannel named))
      (afterCall manager (.removeChannel named)) := by
  constructor
  · exact hkeeps.nextId
  · intro localId
    change (AList.lookup localId (manager.channels.erase named)).isSome ↔
      localId.toNat ∈ registry.live.erase named.toNat
    rw [Finset.mem_erase, ← hkeeps.live, Ne, UInt32.toNat_inj]
    by_cases heq : localId = named
    · subst heq
      rw [AList.lookup_erase]
      exact iff_of_false Bool.false_ne_true fun hand => hand.1 rfl
    · rw [AList.lookup_erase_ne heq]
      exact ⟨fun hsome => ⟨heq, hsome⟩, And.right⟩
  · exact fun number hmem => hkeeps.below number (Finset.mem_of_mem_erase hmem)
  · exact fun localId channel hfound => proper_afterCall _ hkeeps.proper hfound

theorem keeps_step (call : Call) (hkeeps : Keeps registry manager)
    (hcount : call.allocates = true → registry.count < 2 ^ 32) :
    Keeps (registryStep registry call) (afterCall manager call) := by
  cases call with
  | openChannel channelType =>
      exact keeps_allocated hkeeps (hcount rfl) rfl rfl fun localId => isSome_insert localId _ _
  | acceptChannel remoteId channelType remoteWindow remoteMaxPacket =>
      exact keeps_allocated hkeeps (hcount rfl) rfl rfl fun localId => isSome_insert localId _ _
  | confirmChannel named remoteId remoteWindow remoteMaxPacket =>
      exact keeps_changed hkeeps rfl rfl isSome_changeLocal
  | receiveData named data => exact keeps_changed hkeeps rfl rfl isSome_changeLocal
  | consumeRemoteWindow named amount =>
      exact keeps_changed hkeeps rfl rfl isSome_changeLocal
  | adjustLocalWindow named amount =>
      exact keeps_changed hkeeps rfl rfl isSome_changeLocal
  | removeChannel named => exact keeps_removed hkeeps named

theorem keeps_new : Keeps ⟨0, ∅⟩ newChannelManager := by
  have hget : ∀ localId, newChannelManager.get localId = none :=
    fun localId => AList.lookup_empty localId
  constructor
  · rfl
  · intro localId
    rw [hget]
    exact iff_of_false Bool.false_ne_true (Finset.notMem_empty _)
  · exact fun number hmem => absurd hmem (Finset.notMem_empty _)
  · intro localId channel hfound
    rw [hget] at hfound
    cases hfound

theorem keeps_tableAfter (hcount : allocations calls ≤ 2 ^ 32) :
    Keeps (registryAfter calls) (tableAfter calls) := by
  induction calls using List.reverseRecOn with
  | nil => exact keeps_new
  | append_singleton calls call ih =>
      rw [allocations_concat] at hcount
      rw [registryAfter_concat, tableAfter, Machine.after_concat]
      refine keeps_step call (ih (by omega)) ?_
      intro hallocates
      rw [hallocates, if_pos rfl] at hcount
      rw [count_registryAfter]
      omega

/-- The channels that are not closed are all channels, one for each number in use. -/
theorem activeCount_eq_card (hkeeps : Keeps registry manager) (hcount : registry.count ≤ 2 ^ 32) :
    activeCount manager = registry.live.card := by
  have hall : manager.channels.entries.filter (fun entry => !entry.2.closed) =
      manager.channels.entries := by
    rw [List.filter_eq_self]
    intro entry hmem
    have hget : manager.get entry.1 = some entry.2 := AList.mem_lookup_iff.mpr hmem
    rw [(hkeeps.proper _ _ hget).2]
    rfl
  have hnodup : (manager.channels.keys.map UInt32.toNat).Nodup :=
    manager.channels.keys_nodup.map fun _ _ heq => UInt32.toNat_inj.mp heq
  have hlive : (manager.channels.keys.map UInt32.toNat).toFinset = registry.live := by
    ext number
    rw [List.mem_toFinset, List.mem_map]
    constructor
    · rintro ⟨localId, hmem, rfl⟩
      rw [← hkeeps.live]
      exact AList.lookup_isSome.mpr hmem
    · intro hmem
      have hbelow := hkeeps.below number hmem
      have hnumber : (UInt32.ofNat number).toNat = number := by
        rw [UInt32.toNat_ofNat', Nat.mod_eq_of_lt (by omega)]
      rw [← hnumber, ← hkeeps.live] at hmem
      exact ⟨UInt32.ofNat number, AList.lookup_isSome.mp hmem, hnumber⟩
  rw [activeCount, hall, ← hlive, List.toFinset_card_of_nodup hnodup, List.length_map]
  exact (List.length_map _).symm

theorem unknown_of_missing {call : Call} {localId : UInt32}
    (hlocal : call.localId = some localId) (hmissing : manager.get localId = none) :
    call = .removeChannel localId ∨
      (perform manager call).1 = .err (.channel s!"Unknown channel {localId}") := by
  have hunknown : ∀ change : Channel → Outcome SshError Unit × Channel,
      (changeLocal manager localId change).1 =
        .err (.channel s!"Unknown channel {localId}") := by
    intro change
    rw [changeLocal_of_missing hmissing]
  cases call with
  | openChannel channelType => cases hlocal
  | acceptChannel remoteId channelType remoteWindow remoteMaxPacket => cases hlocal
  | confirmChannel named remoteId remoteWindow remoteMaxPacket =>
      cases hlocal
      exact .inr (hunknown _)
  | receiveData named data =>
      cases hlocal
      exact .inr (hunknown _)
  | consumeRemoteWindow named amount =>
      cases hlocal
      exact .inr (hunknown _)
  | adjustLocalWindow named amount =>
      cases hlocal
      exact .inr (hunknown _)
  | removeChannel named =>
      cases hlocal
      exact .inl rfl

theorem Keeps.serves (hkeeps : Keeps registry manager) (hcount : registry.count ≤ 2 ^ 32) :
    Serves registry manager := by
  constructor
  · exact fun channelType => hkeeps.nextId
  · exact fun remoteId channelType remoteWindow remoteMaxPacket => hkeeps.nextId
  · intro localId
    rw [← hkeeps.live, Option.isSome_iff_exists]
    constructor
    · rintro ⟨channel, hget⟩
      exact ⟨channel, hget, (hkeeps.proper localId channel hget).1⟩
    · rintro ⟨channel, hget, -⟩
      exact ⟨channel, hget⟩
  · exact hkeeps.live
  · intro call localId hlocal hdead
    apply unknown_of_missing hlocal
    rw [← hkeeps.live, Option.not_isSome_iff_eq_none] at hdead
    exact hdead
  · exact activeCount_eq_card hkeeps hcount

/-- After any calls that allocate at most 2 ^ 32 channels, the table is the registry of
these calls: the next channel gets the number of allocations so far, a number is in use
from its allocation to its removal, each channel knows its number, a call on a number that
is not in use fails as unknown, and the number of active channels is that of the numbers in
use. -/
theorem table_serves_registry (calls : List Call) (hcount : allocations calls ≤ 2 ^ 32) :
    Serves (registryAfter calls) (tableAfter calls) := by
  apply (keeps_tableAfter hcount).serves
  rw [count_registryAfter]
  exact hcount

/-- Two channels are opened, and the first one is removed. -/
def sampleCalls : List Call :=
  [.openChannel "session", .acceptChannel 7 "session" 0 0, .removeChannel 0]

theorem table_serves_registry_sample :
    (registryAfter sampleCalls).live = {1} ∧
      Serves (registryAfter sampleCalls) (tableAfter sampleCalls) :=
  ⟨by decide, table_serves_registry sampleCalls (by decide)⟩

end SwiftSsh.ChannelRegistry
