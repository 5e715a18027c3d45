import TrackedEntity.Value.Description

/-!
# Which descriptions depend on the channel

The description of a value is made from the value alone, except that a channel stands in it with its
own text.  `Value.showsChannel` follows the description to the channels in it; where there is none,
the text of the channel does not matter (`Value.describeWith_congr`).
-/

namespace TrackedEntity.Value

mutual

/-- Whether a channel is met when a value is described. -/
def showsChannel : Value → Bool
  | .channel => true
  | .list _ items | .tuple _ items | .set _ items | .frozenset _ items => anyShowsChannel items
  | .dict _ entries => entriesShowChannel entries
  | .point _ _ x y => showsChannel x || showsChannel y
  | _ => false
termination_by structural v => v

/-- Whether a channel is met when several values are described. -/
def anyShowsChannel : List Value → Bool
  | [] => false
  | v :: vs => showsChannel v || anyShowsChannel vs
termination_by structural vs => vs

/-- Whether a channel is met when entries are described. -/
def entriesShowChannel : List (Value × Value) → Bool
  | [] => false
  | (k, v) :: es => showsChannel k || showsChannel v || entriesShowChannel es
termination_by structural es => es

end

variable {channel channel' : String}

mutual

/-- **A value that shows no channel** has one description, whatever the text of the channel. -/
theorem describeWith_congr :
    ∀ v : Value, v.showsChannel = false → v.describeWith channel = v.describeWith channel'
  | .channel, h => by simp [showsChannel] at h
  | .list _ items, h => by
    simp only [showsChannel] at h
    simp only [describeWith, describeAll_congr items h]
  | .tuple _ [], _ => rfl
  | .tuple _ [item], h => by
    simp only [showsChannel, anyShowsChannel, Bool.or_false] at h
    simp only [describeWith, describeWith_congr item h]
  | .tuple _ (item :: next :: items), h => by
    simp only [showsChannel] at h
    simp only [describeWith, describeAll_congr (item :: next :: items) h]
  | .set _ [], _ | .frozenset _ [], _ => rfl
  | .set _ (item :: items), h | .frozenset _ (item :: items), h => by
    simp only [showsChannel] at h
    simp only [describeWith, describeAll_congr (item :: items) h]
  | .dict _ entries, h => by
    simp only [showsChannel] at h
    simp only [describeWith, describeEntries_congr entries h]
  | .point _ _ x y, h => by
    simp only [showsChannel, Bool.or_eq_false_iff] at h
    simp only [describeWith, describeWith_congr x h.1, describeWith_congr y h.2]
  | .none, _ | .bool _, _ | .int _, _ | .str _, _ | .bytes _, _ | .float _ _, _
  | .complex _ _ _, _ | .bytearray _ _, _ | .sentinel _ _, _ | .comparer _ _ _, _
  | .function _ _, _ | .method _ _, _ | .object _, _ | .entity _, _ => rfl
termination_by structural v => v

theorem describeAll_congr : ∀ vs : List Value, anyShowsChannel vs = false →
    describeAll channel vs = describeAll channel' vs
  | [], _ => rfl
  | v :: vs, h => by
    simp only [anyShowsChannel, Bool.or_eq_false_iff] at h
    simp only [describeAll, describeWith_congr v h.1, describeAll_congr vs h.2]
termination_by structural vs => vs

theorem describeEntries_congr : ∀ es : List (Value × Value), entriesShowChannel es = false →
    describeEntries channel es = describeEntries channel' es
  | [], _ => rfl
  | (k, v) :: es, h => by
    simp only [entriesShowChannel, Bool.or_eq_false_iff] at h
    simp only [describeEntries, describeWith_congr k h.1.1, describeWith_congr v h.1.2,
      describeEntries_congr es h.2]
termination_by structural es => es

end

end TrackedEntity.Value
