import SqliteMc.Model.Wal

/-!
# Reading the write-ahead log

* `wal_frames_restored` — every frame that was appended to the log is read back, and verified.
-/

namespace SqliteMc

namespace Native

open Buffer ChaCha20

namespace WalFrame

/-- The frames that are appended in a run. -/
def appended (es : List (Vfs.Event WalFrame)) : List WalFrame := es.filterMap Vfs.Event.entry?

/-- A frame that was appended fits into the log. -/
theorem fits_of_mem_appended {c : Codec} {es : List (Vfs.Event WalFrame)} {f : WalFrame}
    (h : ∀ e ∈ es, e.Fits c .wal (Fits c)) (hf : f ∈ appended es) : Fits c f := by
  obtain ⟨e, he, hef⟩ := List.mem_filterMap.mp hf
  cases e with
  | append f' =>
    cases hef
    exact h _ he
  | op fileOp => cases hef

/--
**The frames of the log come back.** After frames were appended to the write-ahead log, in either of
its formats, with any other operations on the files in between, each of them is read with the page
that was written, but for the reserved bytes. Outside the legacy format a recovery that reads the
frame to verify it finds a header that was made for the bytes that follow it, encrypted as they are.
-/
theorem wal_frames_restored (d : Digests) {v : Vfs} {c : Codec} {m : Vfs.Pages}
    {es : List (Vfs.Event WalFrame)} {o j : Nat} {f : WalFrame} (hc : c.AtRest)
    (hsettled : c.Settled) (hv : Vfs.Logs c .wal v) (hm : Vfs.Represents d c v m)
    (hes : ∀ e ∈ es, e.Fits c .wal (Fits c)) (hf : (appended es)[j]? = some f) :
    let v' := (es.foldl (Vfs.Event.step d (c.pageSize + 24) (writeFrame d)) (v, o)).1
    let read := readFrame d c.pageSize v' (o + j * (c.pageSize + 24))
    let verified := recoverFrame d c.pageSize v' (o + j * (c.pageSize + 24))
    read.1 = .ok ∧
      read.2.1.take (c.pageSize - c.reserved) = f.data.take (c.pageSize - c.reserved) ∧
      (c.walLegacy = 0 → verified.1 = .ok ∧
        verified.2.1.take 24 = f.header (verified.2.1.drop 24)) := by
  intro v' read verified
  have hnone : Vfs.Appended (FrameAt d c) (c.pageSize + 24) (v.files .wal).file o [] := trivial
  have hend : o = o + ([] : List WalFrame).length * (c.pageSize + 24) := by
    rw [List.length_nil, Nat.zero_mul, Nat.add_zero]
  -- the run of `Appends`, for frames of the log
  obtain ⟨hlogs, hall, -⟩ :=
    (appends_writeFrame d hc hsettled).run hc es (s := (v, o)) hv hnone hend hm hes
  have hat : FrameAt d c (v'.files .wal).file (o + j * (c.pageSize + 24)) f := hall.get hf
  have hread := readFrame_spec hc hlogs
    (fits_of_mem_appended hes (List.mem_of_getElem? hf)) hat
  -- without the legacy format the header is checked as well, and covers the page
  refine ⟨hread.rc, hread.take, fun hlegacy => ?_⟩
  have hverified : verified = _ := recoverFrame_spec hc hlogs hlegacy hat.le
  have hheader := hat.header hlegacy
  generalize o + j * (c.pageSize + 24) = offset at *
  have hsplit := slice_append_slice (v'.files .wal).file offset 24 c.pageSize
  have hlen : (slice (v'.files .wal).file offset 24).length = 24 := by
    have hle := hat.le
    exact length_slice (by omega)
  rw [hverified]
  refine ⟨rfl, ?_⟩
  dsimp only
  rw [Nat.add_comm c.pageSize 24, ← hsplit, List.take_append_of_le_length (by omega),
    List.drop_append_of_le_length (by omega), List.take_of_length_le (by omega),
    List.drop_of_length_le (by omega), List.nil_append, hheader]

/-- The second of two frames under RC4. -/
theorem wal_frames_restored_rc4 :
    let c := Codec.attach 512 1 0 (.rc4 ⟨1, 512, [0x2a]⟩)
    let v : Vfs := ⟨some c, fun _ => ⟨[], 0, true⟩, default⟩
    let f : WalFrame := ⟨2, zeros 512, fun _ => zeros 20, fun _ => List.length_replicate⟩
    let es : List (Vfs.Event WalFrame) := [.append f, .op (.read .wal 512 56), .append f]
    let v' := (es.foldl (Vfs.Event.step default (c.pageSize + 24) (writeFrame default)) (v, 32)).1
    let read := readFrame default c.pageSize v' (32 + 1 * (c.pageSize + 24))
    let verified := recoverFrame default c.pageSize v' (32 + 1 * (c.pageSize + 24))
    read.1 = .ok ∧
      read.2.1.take (c.pageSize - c.reserved) = f.data.take (c.pageSize - c.reserved) ∧
      (c.walLegacy = 0 → verified.1 = .ok ∧
        verified.2.1.take 24 = f.header (verified.2.1.drop 24)) := by
  intro c v f es
  have hrest : c.AtRest := (Codec.attach_spec (Nat.le_refl 512)).1
  -- the frame is one whole page
  have hfits : Fits c f :=
    ⟨List.length_replicate, by decide, by decide, fun h => absurd h (by decide : ¬ 2 = 1)⟩
  have hall : ∀ e ∈ es, e.Fits c .wal (Fits c) :=
    List.forall_mem_cons.mpr ⟨hfits, List.forall_mem_cons.mpr ⟨⟨trivial, trivial⟩,
      List.forall_mem_cons.mpr ⟨hfits, by simp⟩⟩⟩
  have hsecond : (appended es)[1]? = some f := rfl
  have hrun := wal_frames_restored (v := v) (o := 32) default hrest rfl ⟨rfl, rfl⟩
    (FileImage.holds_none _) hall hsecond
  exact hrun

end WalFrame

end Native

end SqliteMc
