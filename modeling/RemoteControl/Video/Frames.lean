/-
This file follows the decoded frames to the window that shows them. The decoding
thread reads which window to post to and posts a little later; meanwhile the UI
thread opens and destroys the fullscreen view. A window that is asked to show a
frame takes all its posted frames and keeps the newest one.

The picture never goes back to an earlier frame, although frames wait in the queues
of two windows, and every buffer is freed once or still in one place.
-/

import RemoteControl.Library.Ledger
import RemoteControl.Library.Transition
import RemoteControl.Peer.Session

namespace RemoteControl.Video

open Peer (Window)

/-! ### The threads -/

/-- A `VideoFrameData` on the heap, and the number of the decoded frame in it. -/
structure FrameBuffer where
  id : Nat
  number : Nat

/-- Where the UI thread is: between two messages, or inside `EnterFullscreen` or `ExitFullscreen`
with the callback or the destruction of the window to come. -/
inductive FullscreenPhase where
  | idle
  | entering
  | leaving
  deriving DecidableEq

/-- The windows of the video, the renderer of the active user, and the frames that were posted.
`loaded` is the frame the decoding thread is busy with and the target it read; `created` and `gone`
count buffers. The numbers of the frames that were posted, that became the picture and that went
with a window are history. -/
structure Screen where
  opened : Nat := 0
  fullscreenView : Option Nat := none
  phase : FullscreenPhase := .idle
  target : Window := .main
  arrived : Nat := 0
  loaded : Option (Window × Nat) := none
  queue : List (Window × FrameBuffer) := []
  mainFrame : Option FrameBuffer := none
  fullscreenFrame : Option FrameBuffer := none
  created : Nat := 0
  gone : List Nat := []
  posted : List Nat := []
  shown : List Nat := []
  lost : List Nat := []

inductive ScreenAction where
  /-- `RemoteVideoRenderer::OnFrame` reads its target. -/
  | decode
  /-- It returns early, or its frame cannot be converted. -/
  | discard
  /-- It posts the frame; `accepted` is whether a queue takes it. -/
  | post (accepted : Bool)
  /-- `VideoRenderWnd::OnFrame` for the message in front. -/
  | onFrame
  /-- `EnterFullscreen` up to its callback, given whether there is a window. -/
  | enterFullscreen (created : Bool)
  /-- The callback, which moves the target of the active user's session, if there is one. -/
  | entered (session : Bool)
  /-- `ExitFullscreen` up to its callback, and the callback. -/
  | exitFullscreen (session : Bool)
  /-- The rest of `ExitFullscreen`, with the `OnDestroy` of the fullscreen view. -/
  | exited

namespace Screen

variable (screen : Screen)

/-- `IsWindow`. -/
def IsWindow : Window → Prop
  | .main => True
  | .fullscreen handle => screen.fullscreenView = some handle

instance (window : Window) : Decidable (screen.IsWindow window) :=
  match window with
  | .main => isTrue trivial
  | .fullscreen _ => inferInstanceAs (Decidable (_ = _))

/-- The buffers that messages and windows hold. -/
def held : List Nat :=
  screen.queue.map (fun message => message.2.id) ++
    (screen.mainFrame.toList ++ screen.fullscreenFrame.toList).map FrameBuffer.id

/-- The frame of the view that is visible. -/
def picture : Option FrameBuffer :=
  if screen.fullscreenView.isSome then screen.fullscreenFrame else screen.mainFrame

/-- `OnFrame` of a window with the frames that were posted to it, the newest one last. -/
def keepNewest (taken : List FrameBuffer) (newest : FrameBuffer)
    (rest : List (Window × FrameBuffer)) : Screen :=
  let inFullscreen := screen.fullscreenView.isSome
  { screen with
    queue := rest
    mainFrame := if inFullscreen then screen.mainFrame else some newest
    fullscreenFrame := if inFullscreen then some newest else screen.fullscreenFrame
    gone := screen.gone ++ (taken ++ screen.picture.toList).map FrameBuffer.id
    shown := screen.shown ++ [newest.number] }

def next : ScreenAction → Screen
  | .decode =>
    { screen with
      arrived := screen.arrived + 1
      loaded := some (screen.target, screen.arrived) }
  | .discard => { screen with loaded := none }
  | .post accepted =>
    match screen.loaded with
    | none => screen
    | some (window, number) =>
      let screen := { screen with loaded := none, created := screen.created + 1 }
      if accepted ∧ screen.IsWindow window then
        { screen with
          queue := screen.queue ++ [(window, ⟨screen.created - 1, number⟩)]
          posted := screen.posted ++ [number] }
      else { screen with gone := screen.gone ++ [screen.created - 1] }
  | .onFrame =>
    match screen.queue with
    | [] => screen
    | (window, first) :: others =>
      let own := others.filter fun message => message.1 = window
      let frames := first :: own.map Prod.snd
      screen.keepNewest frames.dropLast (frames.getLast (List.cons_ne_nil _ _))
        (others.filter fun message => message.1 ≠ window)
  | .enterFullscreen created =>
    if !created then screen
    else
      let screen :=
        { screen with
          opened := screen.opened + 1
          fullscreenView := some screen.opened
          phase := .entering }
      match screen.mainFrame with
      | none => screen
      | some frame =>
        { screen with
          mainFrame := none
          fullscreenFrame := some ⟨screen.created, frame.number⟩
          created := screen.created + 1
          gone := screen.gone ++ [frame.id] }
  | .entered session =>
    { screen with
      phase := .idle
      target :=
        match session, screen.fullscreenView with
        | true, some handle => .fullscreen handle
        | _, _ => screen.target }
  | .exitFullscreen session =>
    { screen with
      phase := .leaving
      target := if session then .main else screen.target }
  | .exited =>
    let dropped := screen.queue.filter fun message => message.1 ≠ .main
    let replaced := if screen.fullscreenFrame.isSome then screen.mainFrame.toList else []
    { screen with
      phase := .idle
      fullscreenView := none
      queue := screen.queue.filter fun message => message.1 = .main
      mainFrame := screen.fullscreenFrame.or screen.mainFrame
      fullscreenFrame := none
      gone := screen.gone ++ (dropped.map Prod.snd ++ replaced).map FrameBuffer.id
      lost := screen.lost ++ dropped.map fun message => message.2.number }

/-- Each thread does one thing after the other. -/
def Allowed : ScreenAction → Prop
  | .decode => screen.loaded = none
  | .discard | .post _ => True
  | .onFrame => screen.phase = .idle
  | .enterFullscreen _ => screen.phase = .idle ∧ screen.fullscreenView = none
  | .entered _ => screen.phase = .entering
  | .exitFullscreen _ => screen.phase = .idle ∧ screen.fullscreenView.isSome
  | .exited => screen.phase = .leaving

instance : ∀ action, Decidable (screen.Allowed action)
  | .decode => decidable_of_iff (screen.loaded.isNone = true) Option.isNone_iff_eq_none
  | .discard | .post _ => isTrue trivial
  | .onFrame | .entered _ | .exited => inferInstanceAs (Decidable (_ = _))
  | .enterFullscreen _ =>
    decidable_of_iff (screen.phase = .idle ∧ screen.fullscreenView.isNone = true)
      (and_congr_right fun _ => Option.isNone_iff_eq_none)
  | .exitFullscreen _ => inferInstanceAs (Decidable (_ = _ ∧ _ = true))

/-- A session starts to render to the main view, with or without the fullscreen view over it. -/
def system : Transition.System Screen ScreenAction where
  initial screen := screen = {} ∨ screen = { opened := 1, fullscreenView := some 0 }
  allowed := Allowed
  next := next

instance (action : ScreenAction) : Decidable (system.allowed screen action) :=
  inferInstanceAs (Decidable (screen.Allowed action))

/-! ### What holds at every step -/

/-- The numbers of the frames that became the picture, and of those that may still do so. -/
def course : List Nat := screen.shown ++ screen.queue.map fun message => message.2.number

/-- The renderer posts to the fullscreen view. -/
def Diverted : Prop := ∃ handle, screen.target = .fullscreen handle ∧
  screen.fullscreenView = some handle

/-- Frames are numbered on as they arrive, and those behind the picture are later than it. -/
structure Ascending : Prop where
  course : screen.course.Pairwise (· < ·)
  latest : ∀ number ∈ screen.course, number < screen.arrived
  loaded : ∀ busy ∈ screen.loaded, busy.2 < screen.arrived ∧
    ∀ number ∈ screen.course, number < busy.2
  picture : screen.picture.map FrameBuffer.number = screen.shown.getLast?

/-- Messages are for windows there are. Outside `ExitFullscreen` no message for the main view waits
behind one for the fullscreen view, nor is there one to come. -/
structure Directed : Prop where
  exists_ : ∀ message ∈ screen.queue, screen.IsWindow message.1
  fresh : (∀ handle, screen.fullscreenView = some handle → handle < screen.opened) ∧
    (∀ handle, screen.target = .fullscreen handle → handle < screen.opened) ∧
    ∀ busy ∈ screen.loaded, ∀ handle, busy.1 = .fullscreen handle → handle < screen.opened
  blocks : screen.phase ≠ .leaving →
    screen.queue.Pairwise fun earlier later => earlier.1 ≠ .main → later.1 ≠ .main
  main : screen.phase ≠ .leaving → ¬ screen.Diverted →
    (∀ message ∈ screen.queue, message.1 = .main) ∧
      ∀ busy ∈ screen.loaded, busy.1 = .main ∨ ¬ screen.IsWindow busy.1
  fullscreen : screen.phase ≠ .leaving → (∃ message ∈ screen.queue, message.1 ≠ .main) →
    ∀ busy ∈ screen.loaded, busy.1 ≠ .main

/-- The main view is without a frame in fullscreen, and the fullscreen view outside. -/
structure Dormant : Prop where
  main : screen.fullscreenView.isSome → screen.mainFrame = none
  fullscreen : screen.fullscreenView = none → screen.fullscreenFrame = none
  shown : screen.phase ≠ .idle → screen.fullscreenView.isSome

/-- A frame that was posted still waits, went with a window, or is not later than the picture. -/
def Accounted : Prop :=
  ∀ number ∈ screen.posted, number ∈ screen.lost ∨
    (∃ message ∈ screen.queue, message.2.number = number) ∨
    ∃ last ∈ screen.shown.getLast?, number ≤ last

structure Orderly : Prop where
  balanced : Ledger.Balanced screen.created screen.gone screen.held
  dormant : screen.Dormant
  directed : screen.Directed
  ascending : screen.Ascending
  accounted : screen.Accounted

variable {screen}

/-! ### A window takes its frames -/

/-- Of two entries of a list one comes first. -/
theorem pairwise_or {α : Type*} {before : α → α → Prop} {list : List α}
    (pairwise : list.Pairwise before) {first second : α} (left : first ∈ list)
    (right : second ∈ list) (distinct : first ≠ second) :
    before first second ∨ before second first := by
  have either : list.Pairwise fun first second => before first second ∨ before second first :=
    pairwise.imp Or.inl
  have : Std.Symm fun first second => before first second ∨ before second first :=
    ⟨fun _ _ => Or.symm⟩
  exact either.forall left right distinct

section

variable {window : Window} {first : FrameBuffer} {others : List (Window × FrameBuffer)}

theorem Ascending.queue (ascending : screen.Ascending) :
    screen.queue.Pairwise fun earlier later => earlier.2.number < later.2.number :=
  List.pairwise_map.mp (List.pairwise_append.mp ascending.course).2.1

/-- When the UI thread gets to a message, the frames for the same window are earlier than those for
another one. -/
theorem Directed.number_lt (directed : screen.Directed) (ascending : screen.Ascending)
    (idle : screen.phase = .idle) (front : screen.queue = (window, first) :: others)
    {own other : Window × FrameBuffer} (mine : own ∈ screen.queue) (same : own.1 = window)
    (waits : other ∈ screen.queue) (different : other.1 ≠ window) :
    own.2.number < other.2.number := by
  have outside : screen.phase ≠ .leaving := by rw [idle]; nofun
  have blocks := directed.blocks outside
  have both := ascending.queue.and blocks
  have distinct : own ≠ other := fun equal => different (equal ▸ same)
  rcases pairwise_or both mine waits distinct with earlier | later
  · exact earlier.1
  · exfalso
    -- The other message is for the fullscreen view, so this one would be too.
    have exists_ := directed.exists_
    by_cases main : window = .main
    · exact later.2 (main ▸ different) (same.trans main)
    · rw [front] at waits blocks exists_
      have behind : other.1 ≠ .main := by
        rcases List.mem_cons.mp waits with rfl | behind
        · exact main
        · exact (List.pairwise_cons.mp blocks).1 other behind main
      have here := exists_ _ (.head _)
      have there := exists_ _ waits
      obtain ⟨place, buffer⟩ := other
      cases window <;> cases place <;> simp_all [IsWindow]

end

/-- Frames that are taken from the queue, the newest one, and the messages that stay. -/
structure Drained (screen : Screen) (taken : List FrameBuffer) (newest : FrameBuffer)
    (rest : List (Window × FrameBuffer)) : Prop where
  whole : (taken ++ newest :: rest.map Prod.snd).Perm (screen.queue.map Prod.snd)
  kept : rest.Sublist screen.queue
  latest : ∀ buffer ∈ taken, buffer.number < newest.number
  ahead : ∀ message ∈ rest, newest.number < message.2.number

/-- What `OnFrame` does with the queue. -/
theorem next_onFrame (directed : screen.Directed) (ascending : screen.Ascending)
    (idle : screen.phase = .idle) :
    screen.next .onFrame = screen ∨ ∃ taken newest rest, screen.Drained taken newest rest ∧
      screen.next .onFrame = screen.keepNewest taken newest rest := by
  cases front : screen.queue with
  | nil => exact Or.inl (by rw [next, front])
  | cons message others =>
    obtain ⟨window, first⟩ := message
    let own := others.filter fun message => message.1 = window
    let frames := first :: own.map Prod.snd
    have nonempty : frames ≠ [] := List.cons_ne_nil _ _
    have split : frames.dropLast ++ [frames.getLast nonempty] = frames :=
      List.dropLast_append_getLast nonempty
    refine Or.inr ⟨frames.dropLast, frames.getLast nonempty,
      others.filter fun message => message.1 ≠ window, ⟨?_, ?_, ?_, ?_⟩, by rw [next, front]⟩
    · rw [← List.singleton_append, ← List.append_assoc, split, front]
      have parts := (List.filter_append_perm (fun message => message.1 = window) others).map
        Prod.snd
      rw [List.map_append] at parts
      show (first :: (own.map Prod.snd ++ _)).Perm (first :: others.map Prod.snd)
      simpa [own] using parts
    · rw [front]
      exact List.filter_sublist.cons _
    · have sorted : frames.Pairwise fun earlier later => earlier.number < later.number := by
        have queue := ascending.queue
        rw [front] at queue
        have part : ((window, first) :: own).Sublist ((window, first) :: others) :=
          List.filter_sublist.cons_cons _
        have mapped : (((window, first) :: own).map Prod.snd).Pairwise
            fun earlier later : FrameBuffer => earlier.number < later.number :=
          List.pairwise_map.mpr (queue.sublist part)
        exact mapped
      rw [← split] at sorted
      exact fun buffer member => (List.pairwise_append.mp sorted).2.2 buffer member _ (.head _)
    · intro other member
      obtain ⟨there, different⟩ := List.mem_filter.mp member
      have newest : (window, frames.getLast nonempty) ∈ screen.queue := by
        rw [front]
        rcases List.mem_cons.mp (List.getLast_mem nonempty) with same | later
        · rw [same]
          exact .head _
        · obtain ⟨⟨place, buffer⟩, mine, same⟩ := List.mem_map.mp later
          obtain ⟨behind, here⟩ := List.mem_filter.mp mine
          obtain rfl : place = window := of_decide_eq_true here
          rw [← same]
          exact .tail _ behind
      exact directed.number_lt ascending idle front newest rfl (by rw [front]; exact .tail _ there)
        (of_decide_eq_true different)

/-! ### Buffers -/

section

variable {taken : List FrameBuffer} {newest : FrameBuffer} {rest : List (Window × FrameBuffer)}

theorem Dormant.keepNewest (dormant : screen.Dormant) :
    (screen.keepNewest taken newest rest).Dormant where
  main some := (if_pos some).trans (dormant.main some)
  fullscreen none := by
    have absent := dormant.fullscreen none
    simp only [Screen.keepNewest] at none ⊢
    simp [none, absent]
  shown := dormant.shown

/-- Frames are freed when a newer one takes their place. -/
theorem Drained.balanced (drained : screen.Drained taken newest rest) (dormant : screen.Dormant)
    (balanced : Ledger.Balanced screen.created screen.gone screen.held) :
    Ledger.Balanced (screen.keepNewest taken newest rest).created
      (screen.keepNewest taken newest rest).gone (screen.keepNewest taken newest rest).held := by
  have ids := drained.whole.map FrameBuffer.id
  have counted (item : Nat) := ids.count_eq item
  have split : ((taken ++ screen.picture.toList).map FrameBuffer.id ++
      (screen.keepNewest taken newest rest).held).Perm screen.held := by
    refine List.perm_iff_count.mpr fun item => ?_
    have queue := counted item
    unfold Screen.keepNewest held picture
    cases view : screen.fullscreenView with
    | none =>
      have absent := dormant.fullscreen view
      simp [absent, List.count_cons, List.count_append, Function.comp_def] at queue ⊢
      omega
    | some handle =>
      have asleep := dormant.main (by simp [view])
      simp [asleep, List.count_cons, List.count_append, Function.comp_def] at queue ⊢
      omega
  exact balanced.drop split

end

/-- A frame that is posted, or that no queue takes. -/
theorem balanced_post (balanced : Ledger.Balanced screen.created screen.gone screen.held)
    (accepted : Bool) :
    let after := screen.next (.post accepted)
    Ledger.Balanced after.created after.gone after.held := by
  intro after
  have created := balanced.create
  simp only [after, next]
  split
  · exact balanced
  split
  · refine created.move (List.perm_iff_count.mpr fun item => ?_)
    simp only [held, List.map_append, List.count_append, List.map_singleton, Nat.add_sub_cancel]
    omega
  · exact created.drop List.perm_append_comm

/-- The frame is copied into the fullscreen view, and the main view frees its own. -/
theorem balanced_enterFullscreen (dormant : screen.Dormant)
    (outside : screen.fullscreenView = none)
    (balanced : Ledger.Balanced screen.created screen.gone screen.held) (created : Bool) :
    let after := screen.next (.enterFullscreen created)
    Ledger.Balanced after.created after.gone after.held := by
  intro after
  have absent := dormant.fullscreen outside
  cases created with
  | false => exact balanced
  | true =>
    cases frame : screen.mainFrame with
    | none =>
      simp only [after, next, frame, Bool.not_true, Bool.false_eq_true, if_false]
      simpa only [held, frame, absent] using balanced
    | some frame' =>
      simp only [after, next, frame, Bool.not_true, Bool.false_eq_true, if_false]
      refine balanced.create.drop (List.perm_iff_count.mpr fun item => ?_)
      simp [held, frame, absent, List.count_cons, List.count_append]
      omega

/-- The frame moves back, and the frames that were posted to the fullscreen view are freed. -/
theorem balanced_exited (balanced : Ledger.Balanced screen.created screen.gone screen.held) :
    let after := screen.next .exited
    Ledger.Balanced after.created after.gone after.held := by
  intro after
  refine balanced.drop (List.perm_iff_count.mpr fun item => ?_)
  have parts := ((List.filter_append_perm (fun message => message.1 = Window.main)
    screen.queue).map fun message => message.2.id).count_eq item
  cases frame : screen.fullscreenFrame <;>
  · simp [after, held, frame, next, List.count_cons, List.count_append, Function.comp_def]
      at parts ⊢
    omega

/-! ### Windows -/

theorem isWindow_fullscreen {handle : Nat} :
    screen.IsWindow (.fullscreen handle) ↔ screen.fullscreenView = some handle := Iff.rfl

/-- Outside fullscreen every message is for the main view. -/
theorem Directed.main_of_none (directed : screen.Directed)
    (outside : screen.fullscreenView = none) : ∀ message ∈ screen.queue, message.1 = .main := by
  intro message member
  have exists_ := directed.exists_ message member
  cases window : message.1 with
  | main => rfl
  | fullscreen handle =>
    rw [window, isWindow_fullscreen, outside] at exists_
    cases exists_

/-- When all messages are for the main view, and the decoding thread posts no other. -/
theorem directed_of_main
    (fresh : (∀ handle, screen.fullscreenView = some handle → handle < screen.opened) ∧
      (∀ handle, screen.target = .fullscreen handle → handle < screen.opened) ∧
      ∀ busy ∈ screen.loaded, ∀ handle, busy.1 = .fullscreen handle → handle < screen.opened)
    (main : ∀ message ∈ screen.queue, message.1 = .main)
    (loaded : ∀ busy ∈ screen.loaded, busy.1 = .main ∨ ¬ screen.IsWindow busy.1) :
    screen.Directed where
  exists_ message member := by
    rw [main message member]
    trivial
  fresh := fresh
  blocks _ := List.pairwise_of_forall_mem_list fun earlier member _ _ away =>
    absurd (main earlier member) away
  main _ _ := ⟨main, loaded⟩
  fullscreen _ := fun ⟨message, member, away⟩ => absurd (main message member) away

theorem Directed.decode (directed : screen.Directed) : (screen.next .decode).Directed where
  exists_ := directed.exists_
  fresh := by
    refine ⟨directed.fresh.1, directed.fresh.2.1, fun busy read handle away => ?_⟩
    cases Option.some_inj.mp read
    exact directed.fresh.2.1 handle away
  blocks := directed.blocks
  main outside straight := by
    refine ⟨(directed.main outside straight).1, fun busy read => ?_⟩
    cases Option.some_inj.mp read
    cases target : screen.target with
    | main => exact Or.inl rfl
    | fullscreen handle => exact Or.inr fun exists_ => straight ⟨handle, target, exists_⟩
  fullscreen outside waiting busy read := by
    cases Option.some_inj.mp read
    obtain ⟨message, member, away⟩ := waiting
    intro main
    refine away ((directed.main outside ?_).1 message member)
    rintro ⟨handle, target, -⟩
    cases target.symm.trans main

theorem Directed.discard (directed : screen.Directed) : (screen.next .discard).Directed where
  exists_ := directed.exists_
  fresh := ⟨directed.fresh.1, directed.fresh.2.1, nofun⟩
  blocks := directed.blocks
  main outside straight := ⟨(directed.main outside straight).1, nofun⟩
  fullscreen _ _ := nofun

theorem Directed.post (directed : screen.Directed) (accepted : Bool) :
    (screen.next (.post accepted)).Directed := by
  cases loaded : screen.loaded with
  | none =>
    rw [next, loaded]
    exact directed
  | some busy =>
    obtain ⟨window, number⟩ := busy
    have read : (window, number) ∈ screen.loaded := loaded
    rw [next, loaded]
    simp only
    split
    · rename_i taken
      refine ⟨fun message member => ?_, ⟨directed.fresh.1, directed.fresh.2.1, nofun⟩,
        fun outside => ?_, fun outside straight => ⟨fun message member => ?_, nofun⟩,
        fun _ _ => nofun⟩
      · rcases List.mem_append.mp member with before | last
        · exact directed.exists_ message before
        · cases List.mem_singleton.mp last
          exact taken.2
      · refine List.pairwise_append.mpr ⟨directed.blocks outside, List.pairwise_singleton _ _, ?_⟩
        intro earlier member last same away
        cases List.mem_singleton.mp same
        exact directed.fullscreen outside ⟨earlier, member, away⟩ _ read
      · rcases List.mem_append.mp member with before | last
        · exact (directed.main outside straight).1 message before
        · cases List.mem_singleton.mp last
          exact ((directed.main outside straight).2 _ read).resolve_right (not_not.mpr taken.2)
    · have idle := directed.discard
      exact ⟨idle.exists_, idle.fresh, idle.blocks, idle.main, idle.fullscreen⟩

/-- Fewer messages. -/
theorem Directed.keepNewest (directed : screen.Directed) {taken : List FrameBuffer}
    {newest : FrameBuffer} {rest : List (Window × FrameBuffer)}
    (kept : rest.Sublist screen.queue) : (screen.keepNewest taken newest rest).Directed where
  exists_ message member := directed.exists_ message (kept.subset member)
  fresh := directed.fresh
  blocks outside := (directed.blocks outside).sublist kept
  main outside straight := ⟨fun message member =>
    (directed.main outside straight).1 message (kept.subset member),
      (directed.main outside straight).2⟩
  fullscreen outside := fun ⟨message, member, away⟩ =>
    directed.fullscreen outside ⟨message, kept.subset member, away⟩

theorem Directed.enterFullscreen (directed : screen.Directed)
    (outside : screen.fullscreenView = none) (created : Bool) :
    (screen.next (.enterFullscreen created)).Directed := by
  cases created with
  | false => exact directed
  | true =>
    obtain ⟨-, target, loaded⟩ := directed.fresh
    have opened : Directed { screen with
        opened := screen.opened + 1
        fullscreenView := some screen.opened
        phase := .entering } := by
      refine directed_of_main ⟨fun handle same => ?_, fun handle away => ?_,
        fun busy read handle away => ?_⟩ (directed.main_of_none outside) fun busy read => ?_
      · cases Option.some_inj.mp same
        exact Nat.lt_succ_self _
      · exact Nat.lt_succ_of_lt (target handle away)
      · exact Nat.lt_succ_of_lt (loaded busy read handle away)
      · -- The new window is none that was read before.
        cases window : busy.1 with
        | main => exact Or.inl rfl
        | fullscreen handle =>
          refine Or.inr fun same => ?_
          cases Option.some_inj.mp (isWindow_fullscreen.mp same)
          exact Nat.lt_irrefl _ (loaded busy read _ window)
    cases frame : screen.mainFrame with
    | none =>
      simp only [next, frame, Bool.not_true, Bool.false_eq_true, if_false]
      rwa [frame] at opened
    | some frame' =>
      simp only [next, frame, Bool.not_true, Bool.false_eq_true, if_false]
      exact ⟨opened.exists_, opened.fresh, opened.blocks, opened.main, opened.fullscreen⟩

theorem Directed.entered (directed : screen.Directed) (busy : screen.phase = .entering)
    (session : Bool) : (screen.next (.entered session)).Directed := by
  have outside : screen.phase ≠ .leaving := by rw [busy]; nofun
  refine ⟨directed.exists_, ⟨directed.fresh.1, fun handle away => ?_, directed.fresh.2.2⟩,
    fun _ => directed.blocks outside, fun _ straight => directed.main outside ?_,
    fun _ => directed.fullscreen outside⟩
  · simp only [next] at away
    split at away
    · rename_i view
      cases away
      exact directed.fresh.1 _ view
    · exact directed.fresh.2.1 handle away
  · rintro ⟨handle, target, view⟩
    refine straight ⟨handle, ?_, view⟩
    cases session with
    | false => exact target
    | true => simp only [next, view]

theorem Directed.exitFullscreen (directed : screen.Directed) (session : Bool) :
    (screen.next (.exitFullscreen session)).Directed where
  exists_ := directed.exists_
  fresh := by
    refine ⟨directed.fresh.1, fun handle away => ?_, directed.fresh.2.2⟩
    cases session with
    | false => exact directed.fresh.2.1 handle away
    | true => cases away
  blocks outside := absurd rfl outside
  main outside := absurd rfl outside
  fullscreen outside := absurd rfl outside

theorem Directed.exited (directed : screen.Directed) : (screen.next .exited).Directed := by
  refine directed_of_main ⟨nofun, directed.fresh.2⟩
    (fun message member => of_decide_eq_true (List.mem_filter.mp member).2) fun busy read => ?_
  cases window : busy.1 with
  | main => exact Or.inl rfl
  | fullscreen handle => exact Or.inr nofun

/-! ### Numbers -/

section

variable {taken : List FrameBuffer} {newest : FrameBuffer} {rest : List (Window × FrameBuffer)}

theorem Drained.newest_mem (drained : screen.Drained taken newest rest) :
    newest ∈ screen.queue.map Prod.snd :=
  drained.whole.subset (List.mem_append_right _ (.head _))

theorem Drained.newest_mem_course (drained : screen.Drained taken newest rest) :
    newest.number ∈ screen.queue.map fun message => message.2.number := by
  obtain ⟨message, member, same⟩ := List.mem_map.mp drained.newest_mem
  exact List.mem_map.mpr ⟨message, member, by rw [same]⟩

/-- The picture is later than all before it. -/
theorem Ascending.shown_lt (ascending : screen.Ascending)
    (drained : screen.Drained taken newest rest) : ∀ number ∈ screen.shown,
      number < newest.number := fun number member =>
  (List.pairwise_append.mp ascending.course).2.2 number member _ drained.newest_mem_course

theorem Ascending.keepNewest (ascending : screen.Ascending)
    (drained : screen.Drained taken newest rest) :
    (screen.keepNewest taken newest rest).Ascending := by
  have kept : (screen.keepNewest taken newest rest).course ⊆ screen.course := by
    intro number member
    rcases List.mem_append.mp member with shown | waits
    · rcases List.mem_append.mp shown with before | last
      · exact List.mem_append_left _ before
      · rw [List.mem_singleton.mp last]
        exact List.mem_append_right _ drained.newest_mem_course
    · exact List.mem_append_right _ ((drained.kept.map _).subset waits)
  obtain ⟨shown, queue, later⟩ := List.pairwise_append.mp ascending.course
  refine ⟨?_, fun number member => ascending.latest number (kept member),
    fun busy read => ⟨(ascending.loaded busy read).1,
      fun number member => (ascending.loaded busy read).2 number (kept member)⟩, ?_⟩
  · refine List.pairwise_append.mpr ⟨?_, queue.sublist (drained.kept.map _), ?_⟩
    · refine List.pairwise_append.mpr ⟨shown, List.pairwise_singleton _ _, ?_⟩
      intro number member last same
      rw [List.mem_singleton.mp same]
      exact ascending.shown_lt drained number member
    · intro number member behind waits
      rcases List.mem_append.mp member with before | last
      · exact later number before behind ((drained.kept.map _).subset waits)
      · rw [List.mem_singleton.mp last]
        obtain ⟨message, there, rfl⟩ := List.mem_map.mp waits
        exact drained.ahead message there
  · show _ = (screen.shown ++ [newest.number]).getLast?
    rw [List.getLast?_concat]
    cases view : screen.fullscreenView <;> simp [Screen.picture, Screen.keepNewest, view]

theorem Accounted.keepNewest (accounted : screen.Accounted) (ascending : screen.Ascending)
    (drained : screen.Drained taken newest rest) :
    (screen.keepNewest taken newest rest).Accounted := by
  intro number posted
  have last : newest.number ∈ (screen.shown ++ [newest.number]).getLast? :=
    List.getLast?_concat
  rcases accounted number posted with lost | ⟨message, member, rfl⟩ | ⟨earlier, shown, notLater⟩
  · exact Or.inl lost
  · have there := drained.whole.mem_iff.mpr (List.mem_map_of_mem (f := Prod.snd) member)
    rcases List.mem_append.mp there with replaced | kept
    · exact Or.inr (Or.inr ⟨_, last, (drained.latest _ replaced).le⟩)
    · rcases List.mem_cons.mp kept with here | waits
      · exact Or.inr (Or.inr ⟨_, last, by rw [here]⟩)
      · obtain ⟨other, behind, same⟩ := List.mem_map.mp waits
        exact Or.inr (Or.inl ⟨other, behind, by rw [same]⟩)
  · have before := ascending.shown_lt drained earlier (List.mem_of_getLast? shown)
    exact Or.inr (Or.inr ⟨_, last, notLater.trans before.le⟩)

end

theorem Ascending.decode (ascending : screen.Ascending) : (screen.next .decode).Ascending where
  course := ascending.course
  latest number member := (ascending.latest number member).trans (Nat.lt_succ_self _)
  loaded busy read := by
    cases Option.some_inj.mp read
    exact ⟨Nat.lt_succ_self _, ascending.latest⟩
  picture := ascending.picture

theorem Ascending.post (ascending : screen.Ascending) (accepted : Bool) :
    (screen.next (.post accepted)).Ascending := by
  cases loaded : screen.loaded with
  | none =>
    rw [next, loaded]
    exact ascending
  | some busy =>
    obtain ⟨window, number⟩ := busy
    obtain ⟨arrived, earlier⟩ := ascending.loaded (window, number) loaded
    rw [next, loaded]
    simp only
    split
    · have longer (buffer : FrameBuffer) : screen.shown ++ (screen.queue ++ [(window, buffer)]).map
          (fun message : Window × FrameBuffer => message.2.number) =
            screen.course ++ [buffer.number] := by
        rw [List.map_append, ← List.append_assoc]
        rfl
      refine ⟨?_, fun other member => ?_, nofun, ascending.picture⟩
      · rw [Screen.course, longer]
        refine List.pairwise_append.mpr ⟨ascending.course, List.pairwise_singleton _ _, ?_⟩
        intro other member last same
        rw [List.mem_singleton.mp same]
        exact earlier other member
      · rw [Screen.course, longer] at member
        rcases List.mem_append.mp member with before | last
        · exact ascending.latest other before
        · exact List.mem_singleton.mp last ▸ arrived
    · exact ⟨ascending.course, ascending.latest, nofun, ascending.picture⟩

theorem Accounted.post (accounted : screen.Accounted) (accepted : Bool) :
    (screen.next (.post accepted)).Accounted := by
  cases loaded : screen.loaded with
  | none =>
    rw [next, loaded]
    exact accounted
  | some busy =>
    rw [next, loaded]
    simp only
    split
    · intro number posted
      rcases List.mem_append.mp posted with before | last
      · refine (accounted number before).imp_right (Or.imp_left ?_)
        rintro ⟨message, member, same⟩
        exact ⟨message, List.mem_append_left _ member, same⟩
      · rw [List.mem_singleton.mp last]
        exact Or.inr (Or.inl ⟨_, List.mem_append_right _ (.head _), rfl⟩)
    · exact accounted

/-! ### Every step -/

theorem Orderly.enterFullscreen (orderly : screen.Orderly)
    (outside : screen.fullscreenView = none) (created : Bool) :
    (screen.next (.enterFullscreen created)).Orderly := by
  obtain ⟨balanced, dormant, directed, ascending, accounted⟩ := orderly
  refine ⟨balanced_enterFullscreen dormant outside balanced created, ?_,
    directed.enterFullscreen outside created, ?_, ?_⟩
  all_goals
    cases created with
    | false => assumption
    | true =>
      have absent := dormant.fullscreen outside
      have same := ascending.picture
      cases frame : screen.mainFrame <;>
      · simp only [next, frame, Bool.not_true, Bool.false_eq_true, if_false]
        first
        | exact accounted
        | exact ⟨fun _ => rfl, nofun, fun _ => rfl⟩
        | exact ⟨fun _ => frame, nofun, fun _ => rfl⟩
        | refine ⟨ascending.course, ascending.latest, ascending.loaded, ?_⟩
          simpa [Screen.picture, outside, frame, absent] using same

theorem Orderly.exited (orderly : screen.Orderly) (leaving : screen.phase = .leaving) :
    (screen.next .exited).Orderly := by
  obtain ⟨balanced, dormant, directed, ascending, accounted⟩ := orderly
  have inside := dormant.shown (by rw [leaving]; nofun)
  have asleep := dormant.main inside
  have part : (screen.next .exited).course.Sublist screen.course :=
    (List.filter_sublist.map _).append_left _
  refine ⟨balanced_exited balanced, ⟨nofun, fun _ => rfl, fun busy => absurd rfl busy⟩,
    directed.exited, ⟨ascending.course.sublist part,
      fun number member => ascending.latest number (part.subset member),
      fun busy read => ⟨(ascending.loaded busy read).1,
        fun number member => (ascending.loaded busy read).2 number (part.subset member)⟩, ?_⟩, ?_⟩
  · have same := ascending.picture
    simpa [Screen.picture, next, inside, asleep] using same
  · intro number posted
    rcases accounted number posted with lost | ⟨message, member, rfl⟩ | shown
    · exact Or.inl (List.mem_append_left _ lost)
    · by_cases main : message.1 = .main
      · exact Or.inr (Or.inl ⟨message, List.mem_filter.mpr ⟨member, decide_eq_true main⟩, rfl⟩)
      · exact Or.inl (List.mem_append_right _ (List.mem_map.mpr
          ⟨message, List.mem_filter.mpr ⟨member, decide_eq_true main⟩, rfl⟩))
    · exact Or.inr (Or.inr shown)

theorem Orderly.next {action : ScreenAction} (orderly : screen.Orderly)
    (allowed : screen.Allowed action) : (screen.next action).Orderly := by
  obtain ⟨balanced, dormant, directed, ascending, accounted⟩ := orderly
  cases action with
  | decode =>
    exact ⟨balanced, ⟨dormant.main, dormant.fullscreen, dormant.shown⟩, directed.decode,
      ascending.decode, accounted⟩
  | discard =>
    exact ⟨balanced, ⟨dormant.main, dormant.fullscreen, dormant.shown⟩, directed.discard,
      ⟨ascending.course, ascending.latest, nofun, ascending.picture⟩, accounted⟩
  | post accepted =>
    refine ⟨balanced_post balanced accepted, ?_, directed.post accepted, ascending.post accepted,
      accounted.post accepted⟩
    cases loaded : screen.loaded with
    | none =>
      rw [Screen.next, loaded]
      exact dormant
    | some busy =>
      rw [Screen.next, loaded]
      simp only
      split <;> exact ⟨dormant.main, dormant.fullscreen, dormant.shown⟩
  | onFrame =>
    rcases next_onFrame directed ascending allowed with same | ⟨taken, newest, rest, drained, same⟩
    · rw [same]
      exact ⟨balanced, dormant, directed, ascending, accounted⟩
    · rw [same]
      exact ⟨drained.balanced dormant balanced, dormant.keepNewest,
        directed.keepNewest drained.kept, ascending.keepNewest drained,
        accounted.keepNewest ascending drained⟩
  | enterFullscreen created =>
    exact Orderly.enterFullscreen ⟨balanced, dormant, directed, ascending, accounted⟩ allowed.2
      created
  | entered session =>
    exact ⟨balanced, ⟨dormant.main, dormant.fullscreen, fun busy => absurd rfl busy⟩,
      directed.entered allowed session,
      ⟨ascending.course, ascending.latest, ascending.loaded, ascending.picture⟩, accounted⟩
  | exitFullscreen session =>
    exact ⟨balanced, ⟨dormant.main, dormant.fullscreen, fun _ => allowed.2⟩,
      directed.exitFullscreen session,
      ⟨ascending.course, ascending.latest, ascending.loaded, ascending.picture⟩, accounted⟩
  | exited =>
    exact Orderly.exited ⟨balanced, dormant, directed, ascending, accounted⟩ allowed

theorem orderly_of_reachable (reachable : system.Reachable screen) : screen.Orderly := by
  refine reachable.invariant ?_ fun state action _ orderly allowed => orderly.next allowed
  rintro state (rfl | rfl)
  · exact ⟨Ledger.balanced_zero, ⟨nofun, fun _ => rfl, fun busy => absurd rfl busy⟩,
      directed_of_main ⟨nofun, nofun, nofun⟩ nofun nofun, ⟨.nil, nofun, nofun, rfl⟩, nofun⟩
  · refine ⟨Ledger.balanced_zero, ⟨fun _ => rfl, nofun, fun _ => rfl⟩,
      directed_of_main ⟨fun handle same => ?_, nofun, nofun⟩ nofun nofun, ⟨.nil, nofun, nofun, rfl⟩,
      nofun⟩
    cases same
    exact Nat.zero_lt_one

/-- What became the picture stays the past of the picture. -/
theorem shown_prefix_next (action : ScreenAction) :
    screen.shown <+: (screen.next action).shown := by
  cases action with
  | post accepted =>
    simp only [Screen.next]
    split
    · exact List.prefix_rfl
    · split <;> exact List.prefix_rfl
  | onFrame =>
    rw [Screen.next]
    split
    · exact List.prefix_rfl
    · exact List.prefix_append _ _
  | enterFullscreen created =>
    simp only [Screen.next]
    split
    · exact List.prefix_rfl
    · split <;> exact List.prefix_rfl
  | _ => exact List.prefix_rfl

theorem shown_prefix {before after : Screen} (leads : system.Leads before after) :
    before.shown <+: after.shown :=
  @Transition.System.Leads.relates _ _ system (fun before after => before.shown <+: after.shown)
    (fun _ => List.prefix_rfl) List.IsPrefix.trans (fun _ action _ => shown_prefix_next action)
    before after leads

/-- The last of a sorted list is not before any other. -/
theorem le_of_mem_getLast? {numbers : List Nat} (sorted : numbers.Pairwise (· < ·)) {number : Nat}
    (member : number ∈ numbers) : ∃ last ∈ numbers.getLast?, number ≤ last := by
  have nonempty := List.ne_nil_of_mem member
  refine ⟨numbers.getLast nonempty, List.getLast?_eq_some_getLast nonempty, ?_⟩
  rw [← List.dropLast_append_getLast nonempty] at sorted member
  rcases List.mem_append.mp member with before | last
  · exact ((List.pairwise_append.mp sorted).2.2 number before _ (.head _)).le
  · exact (List.mem_singleton.mp last).le

theorem Orderly.mem_picture (orderly : screen.Orderly) {last : Nat}
    (shown : last ∈ screen.shown.getLast?) : ∃ picture ∈ screen.picture, picture.number = last := by
  have same := orderly.ascending.picture
  rw [Option.mem_def.mp shown] at same
  exact Option.map_eq_some_iff.mp same

end Screen

/-- The picture of the remote screen never goes back: whenever the fullscreen view opens and closes
between a frame's decoding, its posting and its message, a frame on the screen is followed by later
ones only. With no message waiting the picture is as late as every frame that was posted and did
not go with a fullscreen view. Every buffer is freed once, or held by one message or one view. -/
theorem picture_never_goes_back {before after : Screen} (reachable : Screen.system.Reachable before)
    (leads : Screen.system.Leads before after) :
    (∀ old ∈ before.picture, ∃ new ∈ after.picture, old.number ≤ new.number) ∧
      (after.queue = [] → ∀ number ∈ after.posted, number ∉ after.lost →
        ∃ new ∈ after.picture, number ≤ new.number) ∧
      (after.gone ++ after.held).Perm (List.range after.created) := by
  have first := Screen.orderly_of_reachable reachable
  have second := Screen.orderly_of_reachable (reachable.leads leads)
  refine ⟨fun old visible => ?_, fun empty number posted kept => ?_, second.balanced⟩
  · have shown : old.number ∈ before.shown := by
      refine List.mem_of_getLast? (first.ascending.picture ▸ ?_)
      exact Option.mem_map_of_mem FrameBuffer.number visible
    have sorted := (List.pairwise_append.mp second.ascending.course).1
    obtain ⟨last, there, notLater⟩ :=
      Screen.le_of_mem_getLast? sorted ((Screen.shown_prefix leads).subset shown)
    obtain ⟨new, here, rfl⟩ := second.mem_picture there
    exact ⟨new, here, notLater⟩
  · rcases second.accounted number posted with lost | ⟨message, member, -⟩ | ⟨last, there, notLater⟩
    · exact absurd lost kept
    · rw [empty] at member
      cases member
    · obtain ⟨new, here, rfl⟩ := second.mem_picture there
      exact ⟨new, here, notLater⟩

/-- A frame is shown and copied into the fullscreen view; the next one is decoded for the main view
and posted when the other is open already, and the one after it is posted to the fullscreen view. -/
def throughFullscreen : List ScreenAction :=
  [.decode, .post true, .onFrame, .decode, .enterFullscreen true, .post true, .entered true,
    .decode, .post true, .onFrame, .onFrame, .exitFullscreen true, .exited]

theorem picture_never_goes_back_throughFullscreen :
    (∃ new ∈ (Screen.system.run {} throughFullscreen).picture, 2 ≤ new.number) ∧
      ((Screen.system.run {} throughFullscreen).gone ++
        (Screen.system.run {} throughFullscreen).held).Perm (List.range 4) := by
  have start : Screen.system.Reachable {} := .start (Or.inl rfl)
  obtain ⟨-, latest, balanced⟩ := picture_never_goes_back start
    ⟨throughFullscreen, by decide, rfl⟩
  exact ⟨latest rfl 2 (by decide) (by decide), balanced⟩

end RemoteControl.Video
