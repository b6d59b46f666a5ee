import RetryEndpoint.Wiring
import Mathlib.Data.List.AList
import Mathlib.Data.List.Perm.Lattice

/-!
# The egress sockets

`retransmit/retransmit.go`, `Open`, `openEgressSocket` and `Close`: a socket is opened for each egress
interface and kept in a map by the name of the interface, and all that are in the map are closed.

## The model

A descriptor is known by the order in which it was opened, so that no two are mixed up; `Files` are
those that are open. `Outcome` is how far `openEgressSocket` gets for an interface: the socket is a
descriptor, and so is the copy that `File` makes of it to set the option, which is closed again by a
deferred call. `Close` goes through the map in any order.

## What is proved

* `openEgressSocket_spec` — what fails leaves nothing open, and what succeeds leaves the socket.
* `sockets_retransmitter` — the sockets of the retransmitter, in the model of `run`, are those in the map.
* `egress_sockets_released` — `Close` fails for none of the sockets in the map, and leaves open as many
  as there are interfaces that are named again: none exactly if no name is repeated. An `Open` that
  fails leaves those open that it has opened before, and `run` does not close them.
-/

namespace RetryEndpoint.Retransmit.Sockets

open Go Cache
open scoped List

/-! ### Descriptors -/

/-- The descriptors of the process. -/
structure Files where
  /-- The next one. -/
  next : ℕ
  /-- Those that are open, the last at the end. -/
  opened : List ℕ
  lt_next : ∀ i ∈ opened, i < next
  nodup : opened.Nodup

namespace Files

variable (f : Files)

/-- A descriptor is opened. -/
def new : Files where
  next := f.next + 1
  opened := f.opened ++ [f.next]
  lt_next i hi := by
    rcases List.mem_append.mp hi with hi | hi
    · exact (f.lt_next i hi).trans (Nat.lt_succ_self _)
    · rw [List.mem_singleton.mp hi]
      exact Nat.lt_succ_self _
  nodup := by
    refine List.nodup_append.mpr ⟨f.nodup, List.nodup_singleton _, fun i hi j hj => ?_⟩
    rw [List.mem_singleton.mp hj]
    exact (f.lt_next i hi).ne

/-- `Close`, of a connection or a file. -/
def close (i : ℕ) : Option Err × Files :=
  if i ∈ f.opened then
    (none, ⟨f.next, f.opened.erase i, fun j hj => f.lt_next j (List.mem_of_mem_erase hj), f.nodup.erase i⟩)
  else (some "use of closed network connection", f)

theorem next_not_mem : f.next ∉ f.opened := fun h => absurd (f.lt_next _ h) (lt_irrefl _)

variable {f}

theorem close_of_mem {i : ℕ} (h : i ∈ f.opened) : (f.close i).1 = none ∧ (f.close i).2.opened = f.opened.erase i := by
  rw [close, if_pos h]
  exact ⟨rfl, rfl⟩

/-- What was opened last is closed again. -/
theorem opened_close_new (f : Files) : (f.new.close f.next).2.opened = f.opened := by
  rw [(close_of_mem (by simp [new])).2]
  change (f.opened ++ [f.next]).erase f.next = f.opened
  rw [List.erase_append_right _ f.next_not_mem]
  simp

end Files

/-! ### `Open` and `Close` -/

/-- How far `openEgressSocket` gets. -/
inductive Outcome where
  /-- `net.ListenPacket` fails. -/
  | listen (err : Err)
  /-- It is not a UDP connection. -/
  | notUDP
  /-- `File` fails. -/
  | file (err : Err)
  /-- The option cannot be set. -/
  | sockopt (err : Err)
  /-- The socket is set up. -/
  | ok
  deriving DecidableEq

/-- `openEgressSocket`. -/
def openEgressSocket (o : Outcome) (f : Files) : Except Err ℕ × Files :=
  let conn := f.next
  match o with
  | .listen err => (.error ("listen: " ++ err), f)
  | .notUDP => (.error "not a UDP connection", (f.new.close conn).2)
  | .file err => (.error ("get file descriptor: " ++ err), (f.new.close conn).2)
  | .sockopt err =>
    let file := f.new.next
    -- the file is closed by the deferred call
    (.error ("set multicast interface: " ++ err), ((f.new.new.close conn).2.close file).2)
  | .ok =>
    let file := f.new.next
    (.ok conn, (f.new.new.close file).2)

/-- `r.sockets`. -/
abbrev SocketMap := AList fun _ : String => ℕ

/-- The loop of `Open`, over the interfaces by their names. -/
def openLoop : List (String × Outcome) → SocketMap → Files → Option Err × SocketMap × Files
  | [], sockets, f => (none, sockets, f)
  | (name, o) :: ifaces, sockets, f =>
    match openEgressSocket o f with
    | (.error err, f) => (some ("open egress socket on " ++ name ++ ": " ++ err), sockets, f)
    | (.ok conn, f) => openLoop ifaces (sockets.insert name conn) f

/-- `Open`. -/
def openSockets (ifaces : List (String × Outcome)) (f : Files) : Option Err × SocketMap × Files := openLoop ifaces ∅ f

/-- `Close`, over the sockets in the order of the map; the error is the last one. -/
def closeSockets : List ℕ → Option Err → Files → Option Err × Files
  | [], lastErr, f => (lastErr, f)
  | conn :: conns, lastErr, f => closeSockets conns ((f.close conn).1.or lastErr) (f.close conn).2

/-- The sockets in the map. -/
def conns (sockets : SocketMap) : List ℕ := sockets.entries.map Sigma.snd

/-! ### What is left open -/

/-- **What fails leaves nothing open, and what succeeds leaves the socket.** -/
theorem openEgressSocket_spec (o : Outcome) (f : Files) :
    (∃ err, (openEgressSocket o f).1 = .error err ∧ (openEgressSocket o f).2.opened = f.opened ∧ o ≠ .ok) ∨
      (openEgressSocket o f).1 = .ok f.next ∧ (openEgressSocket o f).2.opened = f.opened ++ [f.next] ∧ o = .ok := by
  cases o with
  | listen err => exact .inl ⟨_, rfl, rfl, nofun⟩
  | notUDP => exact .inl ⟨_, rfl, f.opened_close_new, nofun⟩
  | file err => exact .inl ⟨_, rfl, f.opened_close_new, nofun⟩
  | sockopt err =>
    -- the connection is closed before the file
    refine .inl ⟨_, rfl, ?_, nofun⟩
    have hconn : (f.new.new.close f.next).2.opened = f.opened ++ [f.next + 1] := by
      rw [(Files.close_of_mem (by simp [Files.new])).2]
      change ((f.opened ++ [f.next]) ++ [f.next + 1]).erase f.next = _
      rw [List.append_assoc, List.erase_append_right _ f.next_not_mem]
      simp
    have hfile : f.next + 1 ∉ f.opened := fun h => absurd (f.lt_next _ h) (by omega)
    change ((f.new.new.close f.next).2.close (f.next + 1)).2.opened = f.opened
    rw [(Files.close_of_mem (by simp [hconn])).2, hconn, List.erase_append_right _ hfile]
    simp
  | ok => exact .inr ⟨rfl, f.new.opened_close_new, rfl⟩

/-- The map, when the interfaces `done` have been opened: `ids` are the sockets. -/
structure Kept (sockets : SocketMap) (done : List String) (ids : List ℕ) : Prop where
  mem : ∀ name, name ∈ sockets ↔ name ∈ done
  nodup : (conns sockets).Nodup
  subset : conns sockets ⊆ ids
  length : ids.length = done.length

/-- One more interface: a socket that was in the map under its name is there no more. -/
theorem Kept.insert {sockets : SocketMap} {done : List String} {ids : List ℕ} (h : Kept sockets done ids) {conn : ℕ}
    (hconn : conn ∉ ids) (name : String) : Kept (sockets.insert name conn) (done ++ [name]) (ids ++ [conn]) := by
  have hsub : ((sockets.erase name).entries.map Sigma.snd).Sublist (conns sockets) :=
    (List.kerase_sublist name sockets.entries).map _
  have hconns : conns (sockets.insert name conn) = conn :: (sockets.erase name).entries.map Sigma.snd := rfl
  refine ⟨fun n => ?_, ?_, ?_, ?_⟩
  · rw [AList.mem_insert, h.mem, List.mem_append, List.mem_singleton, or_comm]
  · rw [hconns, List.nodup_cons]
    exact ⟨fun hmem => hconn (h.subset (hsub.subset hmem)), h.nodup.sublist hsub⟩
  · rw [hconns]
    intro c hc
    rcases List.mem_cons.mp hc with rfl | hc
    · simp
    · exact List.mem_append_left _ (h.subset (hsub.subset hc))
  · simp [h.length]

/-- `Open`, when some interfaces have been opened. -/
theorem openLoop_spec {base : List ℕ} (ifaces : List (String × Outcome)) {sockets : SocketMap} {f : Files}
    {done : List String} {ids : List ℕ} (h : Kept sockets done ids) (hf : f.opened = base ++ ids) :
    ((openLoop ifaces sockets f).1 = none →
      ∃ ids', (openLoop ifaces sockets f).2.2.opened = base ++ ids' ∧
        Kept (openLoop ifaces sockets f).2.1 (done ++ ifaces.map Prod.fst) ids') ∧
    ∀ err, (openLoop ifaces sockets f).1 = some err → ∃ ids' pre name o post,
      ifaces = pre ++ (name, o) :: post ∧ o ≠ .ok ∧
        (openLoop ifaces sockets f).2.2.opened = base ++ ids' ∧ ids'.length = ids.length + pre.length := by
  induction ifaces generalizing sockets f done ids with
  | nil => exact ⟨fun _ => ⟨ids, hf, by simpa [openLoop] using h⟩, nofun⟩
  | cons p ifaces ih =>
    obtain ⟨name, o⟩ := p
    rcases hspec : openEgressSocket o f with ⟨res, f'⟩
    have hs := openEgressSocket_spec o f
    rw [hspec] at hs
    rcases hs with ⟨err, rfl, hopened, hne⟩ | ⟨rfl, hopened, -⟩
    · have hloop : openLoop ((name, o) :: ifaces) sockets f =
          (some ("open egress socket on " ++ name ++ ": " ++ err), sockets, f') := by simp only [openLoop, hspec]
      rw [hloop]
      exact ⟨nofun, fun e _ => ⟨ids, [], name, o, ifaces, rfl, hne, hopened.trans hf, rfl⟩⟩
    · have hloop : openLoop ((name, o) :: ifaces) sockets f = openLoop ifaces (sockets.insert name f.next) f' := by
        simp only [openLoop, hspec]
      have hfresh : f.next ∉ ids := fun hmem => f.next_not_mem (by rw [hf]; exact List.mem_append_right _ hmem)
      have hf' : f'.opened = base ++ (ids ++ [f.next]) := by
        rw [← List.append_assoc, ← hf]
        exact hopened
      obtain ⟨hok, herr⟩ := ih (h.insert hfresh name) hf'
      rw [hloop]
      refine ⟨fun hnone => ?_, fun e he => ?_⟩
      · obtain ⟨ids', ho, hk⟩ := hok hnone
        exact ⟨ids', ho, by simpa using hk⟩
      · obtain ⟨ids', pre, name', o', post, rfl, hne, ho, hlen⟩ := herr e he
        refine ⟨ids', (name, o) :: pre, name', o', post, rfl, hne, ho, ?_⟩
        simp only [List.length_append, List.length_cons, List.length_nil] at hlen ⊢
        omega

/-- `Close` closes what it is given. -/
theorem closeSockets_spec {base : List ℕ} (cs : List ℕ) {f : Files} {ids : List ℕ} (hf : f.opened = base ++ ids)
    (hcs : cs.Nodup) (hsub : cs ⊆ ids) :
    (closeSockets cs none f).1 = none ∧
      ∃ left, (closeSockets cs none f).2.opened = base ++ left ∧ left.length + cs.length = ids.length := by
  induction cs generalizing f ids with
  | nil => exact ⟨rfl, ids, hf, rfl⟩
  | cons c cs ih =>
    have hmem : c ∈ ids := hsub (by simp)
    have hopen : c ∈ f.opened := by
      rw [hf]
      exact List.mem_append_right _ hmem
    obtain ⟨hnone, hclosed⟩ := Files.close_of_mem hopen
    have hbase : c ∉ base := by
      have hnd := f.nodup
      rw [hf] at hnd
      exact fun hb => (List.nodup_append.mp hnd).2.2 c hb c hmem rfl
    rw [hf, List.erase_append_right _ hbase] at hclosed
    obtain ⟨hnotin, hnd⟩ := List.nodup_cons.mp hcs
    have hsub' : cs ⊆ ids.erase c := by
      intro c' hc'
      have hne : c' ≠ c := by
        rintro rfl
        exact hnotin hc'
      exact (List.mem_erase_of_ne hne).mpr (hsub (by simp [hc']))
    obtain ⟨herr, left, hleft, hlen⟩ := ih hclosed hnd hsub'
    rw [closeSockets, hnone, Option.none_or]
    refine ⟨herr, left, hleft, ?_⟩
    rw [List.length_erase_of_mem hmem] at hlen
    have hpos := List.length_pos_of_mem hmem
    rw [List.length_cons]
    omega

theorem bytesOf_injective : Function.Injective bytesOf := by
  intro s t h
  exact String.toByteArray_inj.mp (ByteArray.ext (Array.toList_inj.mp h))

theorem kept_nil : Kept ∅ [] [] := ⟨by simp, List.nodup_nil, List.nil_subset _, rfl⟩

/-- There is a socket for each name of an interface. -/
theorem keys_openSockets {ifaces : List (String × Outcome)} {f : Files} (h : (openSockets ifaces f).1 = none) :
    (openSockets ifaces f).2.1.keys ~ (ifaces.map Prod.fst).dedup := by
  obtain ⟨ids, -, hk⟩ := (openLoop_spec ifaces kept_nil (List.append_nil f.opened).symm).1 h
  refine (List.perm_ext_iff_of_nodup (AList.keys_nodup _) (List.nodup_dedup _)).mpr fun name => ?_
  rw [List.mem_dedup, ← AList.mem_keys]
  exact hk.mem name

/-- The sockets of the retransmitter, as `run` builds it, are those in the map. -/
theorem sockets_retransmitter (cfg : Config) (redisCache : Option RedisCache) {ifaces : List (String × Outcome)}
    (hifaces : ifaces.map Prod.fst = cfg.egressIfaces) {f : Files} (h : (openSockets ifaces f).1 = none) :
    (cfg.retransmitter redisCache).sockets ~ (openSockets ifaces f).2.1.keys.map bytesOf := by
  have hkeys := (keys_openSockets h).map bytesOf
  rw [hifaces, ← List.dedup_map_of_injective bytesOf_injective] at hkeys
  exact hkeys.symm

/-- What is left of the sockets after `Open` and `Close`. -/
structure Released (ifaces : List (String × Outcome)) (f : Files) (sockets : SocketMap) (err : Option Err)
    (f' : Files) : Prop where
  /-- There is a socket for each name. -/
  names : sockets.keys ~ (ifaces.map Prod.fst).dedup
  /-- None was closed before. -/
  err : err = none
  /-- One is left open for each interface that is named again. -/
  left : ∃ left, f'.opened = f.opened ++ left ∧ left.length + (ifaces.map Prod.fst).dedup.length = ifaces.length
  /-- So none is exactly if no name is repeated. -/
  iff : f'.opened = f.opened ↔ (ifaces.map Prod.fst).Nodup

/-- **`Open` and `Close`**: after an `Open` that succeeds, `Close` closes all but those that were
opened for an interface that is named again; an `Open` that fails has left open what it had opened. -/
theorem egress_sockets_released (ifaces : List (String × Outcome)) (f : Files) :
    ((openSockets ifaces f).1 = none → ∀ order, order ~ conns (openSockets ifaces f).2.1 →
      Released ifaces f (openSockets ifaces f).2.1 (closeSockets order none (openSockets ifaces f).2.2).1
        (closeSockets order none (openSockets ifaces f).2.2).2) ∧
    ∀ err, (openSockets ifaces f).1 = some err → ∃ left pre name o post, ifaces = pre ++ (name, o) :: post ∧ o ≠ .ok ∧
      (openSockets ifaces f).2.2.opened = f.opened ++ left ∧ left.length = pre.length := by
  obtain ⟨hok, herr⟩ := openLoop_spec ifaces kept_nil (List.append_nil f.opened).symm
  refine ⟨fun hnone order horder => ?_, fun err he => ?_⟩
  · obtain ⟨ids, ho, hk⟩ := hok hnone
    have hnames := keys_openSockets hnone
    obtain ⟨herr', left, hleft, hlen⟩ :=
      closeSockets_spec order ho (horder.nodup_iff.mpr hk.nodup) (List.Subset.trans horder.subset hk.subset)
    have hcount : left.length + (ifaces.map Prod.fst).dedup.length = ifaces.length := by
      have hkeys : order.length = (ifaces.map Prod.fst).dedup.length := by
        rw [horder.length_eq, ← hnames.length_eq]
        exact (List.length_map _).trans (List.length_map _).symm
      rw [hk.length, hkeys] at hlen
      simpa using hlen
    refine ⟨hnames, herr', ⟨left, hleft, hcount⟩, ?_⟩
    change (closeSockets order none (openSockets ifaces f).2.2).2.opened = _ at hleft
    have hnil : f.opened ++ left = f.opened ↔ left = [] := by simp
    rw [hleft, hnil, ← List.dedup_eq_self, ← List.length_eq_zero_iff]
    constructor
    · intro hzero
      refine (List.dedup_sublist _).eq_of_length ?_
      rw [List.length_map]
      omega
    · intro heq
      rw [heq, List.length_map] at hcount
      omega
  · obtain ⟨ids, pre, name, o, post, hsplit, hne, ho, hlen⟩ := herr err he
    exact ⟨ids, pre, name, o, post, hsplit, hne, ho, by simpa using hlen⟩

end RetryEndpoint.Retransmit.Sockets
