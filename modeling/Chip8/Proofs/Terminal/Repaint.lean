import Mathlib.Data.Fintype.Card
import Mathlib.Data.List.FinRange
import Chip8.Terminal.Canvas
import Chip8.Terminal.Grid

/-!
# Drawing only what has changed

A terminal is told of a new frame only the pixels that differ from what it shows. Each pixel has two
cells of the terminal to itself (`Pixel.Covers`, `covers_unique`), so painting some pixels leaves
the cells of all others alone, and where a terminal shows what the canvas remembers to be on it, it
shows the new frame afterwards (`shows_redraw`). This carries over to every sequence of calls
(`shows_receiveAll`).

So what is on the terminal is what painting every pixel of the last frame would have put there, and
nothing but the cells of pixels has ever been written to.
-/

namespace Chip8

/-! ### The pixels of the display -/

namespace Pixel

theorem mem_all (p : Pixel) : p ∈ all := by
  rw [all, List.mem_flatMap]
  exact ⟨p.row, List.mem_finRange _, List.mem_map.2 ⟨p.column, List.mem_finRange _, rfl⟩⟩

theorem nodup_all : all.Nodup := by
  rw [all, List.nodup_flatMap]
  refine ⟨fun y _ => ?_, ?_⟩
  · exact (List.nodup_finRange 64).map fun x x' h => congrArg Pixel.column h
  · -- pixels of different rows are different
    refine (List.nodup_finRange 32).imp fun {y y'} hne => ?_
    rw [Function.onFun_apply, List.disjoint_left]
    rintro p hp hp'
    obtain ⟨x, -, rfl⟩ := List.mem_map.1 hp
    obtain ⟨x', -, heq⟩ := List.mem_map.1 hp'
    exact hne (congrArg Pixel.row heq).symm

instance : Fintype Pixel :=
  ⟨⟨all, nodup_all⟩, mem_all⟩

/-- Whether a cell of the terminal, given by its column and row, belongs to a pixel. -/
def Covers (p : Pixel) (x y : ℕ) : Prop :=
  y = p.row.val + 1 ∧ (x = 2 * p.column.val + 1 ∨ x = 2 * p.column.val + 2)

/-- A cell belongs to one pixel at most. -/
theorem covers_unique {p q : Pixel} {x y : ℕ} (hp : p.Covers x y) (hq : q.Covers x y) : p = q := by
  obtain ⟨c, r⟩ := p
  obtain ⟨c', r'⟩ := q
  obtain ⟨hrow, hcolumn⟩ := hp
  obtain ⟨hrow', hcolumn'⟩ := hq
  simp only at hrow hcolumn hrow' hcolumn'
  rw [Pixel.mk.injEq, Fin.ext_iff, Fin.ext_iff]
  omega

/-- The cells of pixels are those inside the border. -/
theorem exists_covers_iff {x y : ℕ} :
    (∃ p : Pixel, p.Covers x y) ↔
      0 < x ∧ x < Terminal.rightColumn ∧ 0 < y ∧ y < Terminal.bottomRow := by
  rw [Terminal.rightColumn, Terminal.bottomRow]
  constructor
  · rintro ⟨⟨c, r⟩, hrow, hcolumn⟩
    simp only at hrow hcolumn
    omega
  · rintro ⟨hx, hx', hy, hy'⟩
    refine ⟨⟨⟨(x - 1) / 2, by omega⟩, ⟨y - 1, by omega⟩⟩, ?_, ?_⟩
    · show y = y - 1 + 1
      omega
    · show x = 2 * ((x - 1) / 2) + 1 ∨ x = 2 * ((x - 1) / 2) + 2
      omega

end Pixel

namespace Terminal

/-! ### Painting pixels -/

/-- The character that both cells of a pixel hold. -/
def pixelCharacter (on : Bool) : Char :=
  if on then '█' else ' '

theorem toList_pixelText (on : Bool) :
    (pixelText on).toList = [pixelCharacter on, pixelCharacter on] := by
  cases on with
  | true => rfl
  | false => rfl

/-- Paints some pixels as a display has them. -/
def paint (d : Display) (pixels : List Pixel) : List Action :=
  pixels.flatMap fun p => drawPixel p (d.lit p)

/-- Paints all pixels. -/
def repaint (d : Display) : List Action :=
  paint d Pixel.all

namespace Grid

variable {g : Grid} {d old new : Display} {pixels : List Pixel} {p : Pixel} {x y : ℕ}

theorem after_append (g : Grid) (actions later : List Action) :
    g.after (actions ++ later) = (g.after actions).after later :=
  List.foldl_append

/-- Painting a pixel writes both its cells. -/
theorem cell_drawPixel_of_covers (h : p.Covers x y) (on : Bool) :
    (g.after (drawPixel p on)).cell x y = pixelCharacter on := by
  obtain ⟨rfl, rfl | rfl⟩ := h
  · simp [after, drawPixel, act, toList_pixelText, put]
  · simp [after, drawPixel, act, toList_pixelText, put]

/-- Painting a pixel writes no other cell. -/
theorem cell_drawPixel_of_not_covers (h : ¬p.Covers x y) (on : Bool) :
    (g.after (drawPixel p on)).cell x y = g.cell x y := by
  have hfirst : ¬(x = 2 * p.column.val + 1 ∧ y = p.row.val + 1) := fun e => h ⟨e.2, .inl e.1⟩
  have hsecond : ¬(x = 2 * p.column.val + 1 + 1 ∧ y = p.row.val + 1) := fun e => h ⟨e.2, .inr e.1⟩
  simp only [after, drawPixel, act, toList_pixelText, put, List.foldl_cons, List.foldl_nil,
    if_neg hfirst, if_neg hsecond]

theorem after_paint_cons (g : Grid) (d : Display) (p : Pixel) (rest : List Pixel) :
    g.after (paint d (p :: rest)) = (g.after (drawPixel p (d.lit p))).after (paint d rest) :=
  after_append g _ _

theorem cell_paint_of_not_covers (h : ∀ p ∈ pixels, ¬p.Covers x y) :
    (g.after (paint d pixels)).cell x y = g.cell x y := by
  induction pixels generalizing g with
  | nil => rfl
  | cons p rest ih =>
    rw [List.forall_mem_cons] at h
    rw [after_paint_cons, ih h.2, cell_drawPixel_of_not_covers h.1]

theorem cell_paint_of_covers (hp : p ∈ pixels) (h : p.Covers x y) :
    (g.after (paint d pixels)).cell x y = pixelCharacter (d.lit p) := by
  induction pixels generalizing g with
  | nil => cases hp
  | cons q rest ih =>
    rw [after_paint_cons]
    by_cases hrest : p ∈ rest
    · exact ih hrest
    · -- the pixels painted later are others, so the cell keeps what is painted now
      obtain rfl : p = q := (List.mem_cons.1 hp).resolve_right hrest
      rw [cell_paint_of_not_covers, cell_drawPixel_of_covers h]
      exact fun q hq hq' => hrest (Pixel.covers_unique h hq' ▸ hq)

/-! ### What a terminal shows -/

/-- Whether every pixel has the state on a terminal that it has on a display. -/
def Shows (g : Grid) (d : Display) : Prop :=
  ∀ p x y, Pixel.Covers p x y → g.cell x y = pixelCharacter (d.lit p)

theorem shows_blank : blank.Shows .blank := by
  intro p x y _
  rw [Display.lit_blank]
  rfl

theorem shows_repaint (g : Grid) (d : Display) : (g.after (repaint d)).Shows d := by
  intro p x y h
  rw [repaint]
  exact cell_paint_of_covers p.mem_all h

theorem mem_differences : p ∈ differences old new ↔ old.lit p ≠ new.lit p := by
  rw [differences, List.mem_filter, bne_iff_ne]
  exact and_iff_right p.mem_all

theorem nodup_differences (old new : Display) : (differences old new).Nodup :=
  Pixel.nodup_all.filter _

theorem differences_self (d : Display) : differences d d = [] :=
  List.eq_nil_iff_forall_not_mem.2 fun _ h => mem_differences.1 h rfl

theorem shows_redraw (h : g.Shows old) (new : Display) : (g.after (redraw old new)).Shows new := by
  intro p x y hp
  by_cases hmem : p ∈ differences old new
  · exact cell_paint_of_covers hmem hp
  · -- a pixel that is not painted is the same in both frames
    have hkept : (g.after (redraw old new)).cell x y = g.cell x y :=
      cell_paint_of_not_covers fun q hq hq' => hmem (Pixel.covers_unique hp hq' ▸ hq)
    have hlit : old.lit p = new.lit p := not_not.1 (mt mem_differences.2 hmem)
    rw [hkept, h p x y hp, hlit]

theorem cell_redraw_of_not_covers (h : ∀ p : Pixel, ¬p.Covers x y) :
    (g.after (redraw old new)).cell x y = g.cell x y :=
  cell_paint_of_not_covers fun p _ => h p

end Grid

/-! ### A canvas and the calls made on it -/

namespace Canvas

open OutputDevice (receive receiveAll)

variable {g : Grid} {c : Canvas} {x y : ℕ}

theorem toList_actions_present (c : Canvas) (frame : Display) :
    (c.present frame).actions.toList = c.actions.toList ++ redraw c.shown frame :=
  Array.toList_appendList

/-- The bell writes nothing. -/
theorem after_sound (g : Grid) (c : Canvas) (on : Bool) :
    g.after (c.sound on).actions.toList = g.after c.actions.toList := by
  rw [sound]
  split
  · rw [Array.toList_push, Grid.after_append]
    rfl
  · rfl

theorem shown_sound (c : Canvas) (on : Bool) : (c.sound on).shown = c.shown := by
  rw [sound]
  split
  · rfl
  · rfl

/-- A canvas remembers the last frame. -/
theorem shown_receiveAll (c : Canvas) (events : List OutputEvent) :
    (receiveAll c events).shown = (events.filterMap OutputEvent.frame?).getLast?.getD c.shown := by
  induction events generalizing c with
  | nil => rfl
  | cons event rest ih =>
    refine (ih (receive c event)).trans ?_
    cases event with
    | present frame =>
      have hframes : (OutputEvent.present frame :: rest).filterMap OutputEvent.frame?
          = frame :: rest.filterMap OutputEvent.frame? := rfl
      rw [hframes, List.getLast?_cons, Option.getD_some]
      rfl
    | sound on => exact congrArg _ (shown_sound c on)

theorem shows_receive (h : (g.after c.actions.toList).Shows c.shown) (event : OutputEvent) :
    (g.after (receive c event).actions.toList).Shows (receive c event).shown := by
  cases event with
  | present frame =>
    show (g.after (c.present frame).actions.toList).Shows frame
    rw [toList_actions_present, Grid.after_append]
    exact Grid.shows_redraw h frame
  | sound on =>
    show (g.after (c.sound on).actions.toList).Shows (c.sound on).shown
    rwa [after_sound, shown_sound]

/-- Where a terminal shows what a canvas remembers to be on it, it still does after further calls.
-/
theorem shows_receiveAll (h : (g.after c.actions.toList).Shows c.shown)
    (events : List OutputEvent) :
    (g.after (receiveAll c events).actions.toList).Shows (receiveAll c events).shown := by
  induction events generalizing c with
  | nil => exact h
  | cons event rest ih => exact ih (shows_receive h event)

theorem cell_receive_of_not_covers (hcell : ∀ p : Pixel, ¬p.Covers x y) (event : OutputEvent) :
    (g.after (receive c event).actions.toList).cell x y = (g.after c.actions.toList).cell x y := by
  cases event with
  | present frame =>
    show (g.after (c.present frame).actions.toList).cell x y = _
    rw [toList_actions_present, Grid.after_append]
    exact Grid.cell_redraw_of_not_covers hcell
  | sound on =>
    show (g.after (c.sound on).actions.toList).cell x y = _
    rw [after_sound]

/-- No call writes to a cell that belongs to no pixel. -/
theorem cell_receiveAll_of_not_covers (hcell : ∀ p : Pixel, ¬p.Covers x y)
    (events : List OutputEvent) :
    (g.after (receiveAll c events).actions.toList).cell x y
      = (g.after c.actions.toList).cell x y := by
  induction events generalizing c with
  | nil => rfl
  | cons event rest ih => exact ih.trans (cell_receive_of_not_covers hcell event)

/-- A frame is drawn by painting each pixel once in which it differs from the one before. -/
theorem exists_paint_present (c : Canvas) (frame : Display) :
    ∃ pixels : List Pixel,
      (c.present frame).actions.toList = c.actions.toList ++ paint frame pixels ∧
        (∀ p, p ∈ pixels ↔ c.shown.lit p ≠ frame.lit p) ∧
        pixels.length = Fintype.card { p : Pixel // c.shown.lit p ≠ frame.lit p } := by
  refine ⟨differences c.shown frame, toList_actions_present c frame,
    fun _ => Grid.mem_differences, ?_⟩
  rw [← List.toFinset_card_of_nodup (Grid.nodup_differences c.shown frame)]
  refine (Fintype.card_of_subtype _ fun p => ?_).symm
  rw [List.mem_toFinset, Grid.mem_differences]

theorem present_present (c : Canvas) (frame : Display) :
    (c.present frame).present frame = c.present frame := by
  have hredraw : redraw frame frame = [] := by rw [redraw, Grid.differences_self, List.flatMap_nil]
  show Canvas.mk frame c.mute ((c.present frame).actions ++ redraw frame frame) = c.present frame
  rw [hredraw, Array.appendList_nil]
  rfl

/-- After every sequence of calls, a terminal that was blank shows at each pixel the last frame, and
so the same as if all of it had been painted at once. The border and what is outside of it is left
alone. A further frame is drawn by painting each pixel once in which it differs from the last one,
and so nothing is drawn of a frame that is shown already. -/
theorem replay_paints_last_frame (mute : Bool) (h : History) (frame : Display) :
    let c := h.replay (blank mute)
    let g := Grid.blank.after c.actions.toList
    let last := h.lastFrame?.getD .blank
    (∀ p : Pixel,
      g.cell (2 * p.column.val + 1) (p.row.val + 1) = pixelCharacter (last.lit p) ∧
        g.cell (2 * p.column.val + 2) (p.row.val + 1) = pixelCharacter (last.lit p)) ∧
      (∀ x y, g.cell x y = (Grid.blank.after (repaint last)).cell x y) ∧
      (∀ (g₀ : Grid) (x y : ℕ), x = 0 ∨ rightColumn ≤ x ∨ y = 0 ∨ bottomRow ≤ y →
        (g₀.after c.actions.toList).cell x y = g₀.cell x y) ∧
      (∃ pixels : List Pixel,
        (c.present frame).actions.toList = c.actions.toList ++ paint frame pixels ∧
          (∀ p, p ∈ pixels ↔ last.lit p ≠ frame.lit p) ∧
          pixels.length = Fintype.card { p : Pixel // last.lit p ≠ frame.lit p }) ∧
      (c.present frame).present frame = c.present frame := by
  intro c g last
  have hlast : c.shown = last := shown_receiveAll _ _
  have hblank : (Grid.blank.after (blank mute).actions.toList).Shows (blank mute).shown :=
    Grid.shows_blank
  have hshows : g.Shows last := hlast ▸ shows_receiveAll hblank _
  have houtside : ∀ (g₀ : Grid) x y, (∀ p : Pixel, ¬p.Covers x y) →
      (g₀.after c.actions.toList).cell x y = g₀.cell x y :=
    fun g₀ x y hcell => cell_receiveAll_of_not_covers hcell _
  refine ⟨fun p => ⟨hshows p _ _ ⟨rfl, .inl rfl⟩, hshows p _ _ ⟨rfl, .inr rfl⟩⟩, ?_, ?_, ?_, ?_⟩
  · intro x y
    by_cases hcell : ∃ p : Pixel, p.Covers x y
    · obtain ⟨p, hp⟩ := hcell
      rw [hshows p x y hp, Grid.shows_repaint Grid.blank last p x y hp]
    · have hcell := not_exists.1 hcell
      rw [houtside Grid.blank x y hcell, repaint, Grid.cell_paint_of_not_covers fun p _ => hcell p]
  · intro g₀ x y hborder
    refine houtside g₀ x y (not_exists.1 ?_)
    rw [Pixel.exists_covers_iff]
    omega
  · rw [← hlast]
    exact exists_paint_present c frame
  · exact present_present c frame

end Canvas

end Terminal

end Chip8
