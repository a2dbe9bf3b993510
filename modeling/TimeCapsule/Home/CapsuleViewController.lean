import TimeCapsule.Home.LeftAlignedCollectionViewFlowLayout
import TimeCapsule.Home.Services
import TimeCapsule.Lib.Run

/-!
# The detail screen

`Home/CapsuleView/ViewController/CapsuleViewController.swift`: the screen asks for its capsule once,
shows title and content, and starts one download for each image. The downloads finish in any order,
and each that brings an image adds an image view on the page of its index.

`done` in `Laid` is the list of the downloads that have finished, in the order in which they did.
Together with the running ones they are always the downloads that were started, so the views on
screen are those of a part of the pages, and of all pages once no download is running
(`waits_or_displays`).
-/

namespace TimeCapsule.Home
open Foundation

structure CGSize where
  width : Rat
  height : Rat
deriving DecidableEq, Repr

/-- A view that shows an image of type `α`. -/
structure UIImageView (α : Type) where
  image : α
  frame : CGRect
deriving DecidableEq, Repr

structure DetailRequest where
  token : String
  timeCapsuleId : Int
deriving DecidableEq, Repr

/-- A download that has been resumed, with what its completion captures. -/
structure DataTask where
  index : Nat
  url : String
  imageWidth : Rat
  imageHeight : Rat
deriving DecidableEq, Repr

structure CapsuleViewController (α : Type) where
  capsuleID : Int
  details : Wire DetailRequest (AFResult CapsuleDetailResponse) := []
  imageUrls : List String := []
  contentLabel : Option String := none
  capsuleTitleLabel : Option String := none
  scrollviewIsHidden : Bool := false
  pageControlIsHidden : Bool := false
  contentCentered : Bool := false
  subviews : List (UIImageView α) := []
  contentSize : CGSize := ⟨0, 0⟩
  numberOfPages : Nat := 0
  currentPage : Nat := 0
  /-- Whether the scroll view has a delegate; nothing in the app gives it one. -/
  scrollviewDelegate : Bool := false
  tasks : List DataTask := []
deriving DecidableEq, Repr

/-- An answer is handled while the scroll view has the given bounds; a download is finished when its
block on the main queue runs. -/
inductive CapsuleEvent where
  | detail (bounds : CGSize) (traffic : Traffic (AFResult CapsuleDetailResponse))
  | finished (i : Nat)
  | scroll (contentOffset frameWidth : Rat)
deriving DecidableEq, Repr

def cloudfront : String := "https://d20vni7b64fi71.cloudfront.net/"

def formattedUrlString (urlString : String) : String :=
  if cloudfront.toList.isPrefixOf urlString.toList then urlString else cloudfront ++ urlString

/-- `round`, which rounds halves away from zero. -/
def rounded (x : Rat) : Int := if 0 ≤ x then (x + 1 / 2).floor else (x - 1 / 2).ceil

/-- The downloads that the images of a capsule start; `isURL` tells which strings make a `URL`. -/
def imageTasks (isURL : String → Bool) (bounds : CGSize) (imageUrls : List String) :
    List DataTask :=
  imageUrls.zipIdx.filterMap fun (urlString, index) =>
    if isURL (formattedUrlString urlString) then
      some ⟨index, formattedUrlString urlString, bounds.width, bounds.height⟩
    else
      none

namespace CapsuleViewController
variable {α : Type}

def addImagesToScrollView (isURL : String → Bool) (bounds : CGSize)
    (s : CapsuleViewController α) : CapsuleViewController α :=
  { s with
    subviews := []
    tasks := s.tasks ++ imageTasks isURL bounds s.imageUrls
    numberOfPages := s.imageUrls.length
    -- a page control keeps its current page below the number of its pages
    currentPage := min s.currentPage (s.imageUrls.length - 1) }

def displayCapsuleDetail (keychain : Keychain) (s : CapsuleViewController α) :
    CapsuleViewController α :=
  match keychain.load .refreshToken with
  | some accessToken => { s with details := s.details.send ⟨accessToken, s.capsuleID⟩ }
  | none => s

/-- The block that the completion of `displayCapsuleDetail` leaves on the main queue. -/
def detailHandler (isURL : String → Bool) (bounds : CGSize) (s : CapsuleViewController α) :
    AFResult CapsuleDetailResponse → CapsuleViewController α
  | .success response =>
    let s := { s with
      contentLabel := response.result.map CapsuleDetailResponse.ResultData.content
      capsuleTitleLabel := response.result.map CapsuleDetailResponse.ResultData.title }
    match response.result.bind CapsuleDetailResponse.ResultData.imageList with
    | some images =>
      if !images.isEmpty then
        addImagesToScrollView isURL bounds { s with imageUrls := images }
      else
        { s with
          imageUrls := [], scrollviewIsHidden := true, pageControlIsHidden := true
          contentCentered := true }
    | none =>
      { s with
        imageUrls := [], scrollviewIsHidden := true, pageControlIsHidden := true
        contentCentered := true }
  | .failure => s

/-- The view of a download that has brought an image. -/
def imageView (task : DataTask) (image : α) : UIImageView α :=
  ⟨image, ⟨task.index * task.imageWidth, 0, task.imageWidth, task.imageHeight⟩⟩

/-- The block of a finished download; one that has failed only prints. -/
def imageHandler (s : CapsuleViewController α) (task : DataTask) :
    Option α → CapsuleViewController α
  | some image =>
    { s with
      subviews := s.subviews ++ [imageView task image]
      contentSize := ⟨task.imageWidth * s.imageUrls.length, task.imageHeight⟩ }
  | none => s

/-- `scrollViewDidScroll`; the conversion to `Int` traps if the frame has no width. -/
def scrollViewDidScroll (s : CapsuleViewController α) (contentOffset frameWidth : Rat) :
    Option (CapsuleViewController α) :=
  if frameWidth = 0 then none
  else
    let pageIndex := rounded (contentOffset / frameWidth)
    some { s with currentPage := min pageIndex.toNat (s.numberOfPages - 1) }

/-- `outcome` is what the download of the image at an index brings. -/
def step (isURL : String → Bool) (outcome : Nat → Option α) (s : CapsuleViewController α) :
    CapsuleEvent → Option (CapsuleViewController α)
  | .detail bounds traffic =>
    let (details, delivered) := s.details.step traffic
    match delivered with
    | some (_, result) => some ({ s with details }.detailHandler isURL bounds result)
    | none => some { s with details }
  | .finished i =>
    match s.tasks[i]? with
    | some task => some ({ s with tasks := s.tasks.eraseIdx i }.imageHandler task
        (outcome task.index))
    | none => some s
  | .scroll contentOffset frameWidth =>
    if s.scrollviewDelegate then s.scrollViewDidScroll contentOffset frameWidth else some s

/-- `viewDidLoad`. -/
def viewDidLoad (keychain : Keychain) (capsuleID : Int) : CapsuleViewController α :=
  displayCapsuleDetail keychain { capsuleID }

/-! ## The pages -/

/-- The images of an answer. -/
def images (response : CapsuleDetailResponse) : List String :=
  (response.result.bind CapsuleDetailResponse.ResultData.imageList).getD []

/-- The view of a download, if it brings an image. -/
def taskView (outcome : Nat → Option α) (task : DataTask) : Option (UIImageView α) :=
  (outcome task.index).map (imageView task)

/-- The views of all images that can be downloaded, page by page. -/
def pages (isURL : String → Bool) (outcome : Nat → Option α) (bounds : CGSize)
    (imageUrls : List String) : List (UIImageView α) :=
  (imageTasks isURL bounds imageUrls).filterMap (taskView outcome)

/-- Two views lie side by side. -/
def Apart (v w : UIImageView α) : Prop :=
  v.frame.x + v.frame.width ≤ w.frame.x ∨ w.frame.x + w.frame.width ≤ v.frame.x

/-- A view lies within the content. -/
def Within (size : CGSize) (v : UIImageView α) : Prop :=
  0 ≤ v.frame.x ∧ v.frame.x + v.frame.width ≤ size.width

section Pages
variable {isURL : String → Bool} {outcome : Nat → Option α} {bounds : CGSize}
  {imageUrls : List String}

/-- Every image is fetched from the image host, whose address is not put twice. -/
lemma formattedUrlString_host (urlString : String) :
    cloudfront.toList <+: (formattedUrlString urlString).toList ∧
      formattedUrlString (formattedUrlString urlString) = formattedUrlString urlString := by
  have host : cloudfront.toList <+: (formattedUrlString urlString).toList := by
    unfold formattedUrlString
    split
    · next found => exact List.isPrefixOf_iff_prefix.1 found
    · rw [String.toList_append]
      exact List.prefix_append _ _
  refine ⟨host, ?_⟩
  rw [formattedUrlString, if_pos (List.isPrefixOf_iff_prefix.2 host)]

/-- A download is that of an image, and has the size of a page. -/
lemma of_mem_imageTasks {t : DataTask} (ht : t ∈ imageTasks isURL bounds imageUrls) :
    t.index < imageUrls.length ∧ t.imageWidth = bounds.width ∧ t.imageHeight = bounds.height ∧
      cloudfront.toList <+: t.url.toList := by
  obtain ⟨⟨urlString, index⟩, mem, started⟩ := List.mem_filterMap.1 ht
  simp only at started
  split at started
  · cases started
    have bound : index < 0 + imageUrls.length := (List.mem_zipIdx mem).2.1
    rw [Nat.zero_add] at bound
    exact ⟨bound, rfl, rfl, (formattedUrlString_host urlString).1⟩
  · cases started

/-- The downloads are started in the order of the images. -/
lemma pairwise_imageTasks :
    (imageTasks isURL bounds imageUrls).Pairwise fun t u => t.index < u.index := by
  have indices : imageUrls.zipIdx.Pairwise fun p q => p.2 < q.2 := by
    rw [← List.pairwise_map (f := Prod.snd) (R := fun i j : Nat => i < j), List.zipIdx_map_snd]
    exact List.pairwise_lt_range'
  apply List.Pairwise.filterMap _ _ indices
  rintro ⟨u, i⟩ ⟨v, j⟩ lt t ht w hw
  simp only at ht hw
  split at ht
  · split at hw
    · cases ht
      cases hw
      exact lt
    · cases hw
  · cases ht

/-- The pages lie side by side. -/
lemma pairwise_pages (positive : 0 ≤ bounds.width) :
    (pages isURL outcome bounds imageUrls).Pairwise Apart := by
  have width (t : DataTask) (ht : t ∈ imageTasks isURL bounds imageUrls) :
      t.imageWidth = bounds.width := (of_mem_imageTasks ht).2.1
  have tasks : (imageTasks isURL bounds imageUrls).Pairwise fun t u =>
      t.index < u.index ∧ t.imageWidth = bounds.width ∧ u.imageWidth = bounds.width :=
    pairwise_imageTasks.imp_of_mem fun ht hu lt => ⟨lt, width _ ht, width _ hu⟩
  apply List.Pairwise.filterMap _ _ tasks
  rintro t u ⟨lt, wt, wu⟩ v hv w hw
  obtain ⟨image, _, rfl⟩ := Option.map_eq_some_iff.1 hv
  obtain ⟨image', _, rfl⟩ := Option.map_eq_some_iff.1 hw
  left
  simp only [imageView, wt, wu]
  have next : (t.index : Rat) + 1 ≤ u.index := by exact_mod_cast lt
  nlinarith

/-- The pages fill the content. -/
lemma within_of_mem_pages (positive : 0 ≤ bounds.width) {v : UIImageView α}
    (hv : v ∈ pages isURL outcome bounds imageUrls) :
    Within ⟨bounds.width * imageUrls.length, bounds.height⟩ v := by
  obtain ⟨t, ht, shown⟩ := List.mem_filterMap.1 hv
  obtain ⟨image, _, rfl⟩ := Option.map_eq_some_iff.1 shown
  obtain ⟨lt, width, _⟩ := of_mem_imageTasks ht
  have next : (t.index : Rat) + 1 ≤ imageUrls.length := by exact_mod_cast lt
  simp only [Within, imageView, width]
  constructor
  · positivity
  · nlinarith

end Pages

/-! ## Runs -/

/-- The server has given this answer. -/
def Answered (es : List CapsuleEvent) (result : AFResult CapsuleDetailResponse) : Prop :=
  ∃ bounds i, CapsuleEvent.detail bounds (.reply i result) ∈ es

/-- Nothing has been shown yet; what is outstanding is the request for the capsule. -/
structure Waiting (s : CapsuleViewController α) : Prop where
  one : s.details.length ≤ 1
  request : ∀ x ∈ s.details, x.request.timeCapsuleId = s.capsuleID
  initial : s = { capsuleID := s.capsuleID, details := s.details }

section Laid
variable (isURL : String → Bool) (outcome : Nat → Option α) (response : CapsuleDetailResponse)
  (bounds : CGSize)

/-- The answer has been shown, and the downloads `done` have finished since. -/
structure Laid (done : List DataTask) (s : CapsuleViewController α) : Prop where
  details : s.details = []
  delegate : s.scrollviewDelegate = false
  content : s.contentLabel = response.result.map CapsuleDetailResponse.ResultData.content
  title : s.capsuleTitleLabel = response.result.map CapsuleDetailResponse.ResultData.title
  imageUrls : s.imageUrls = images response
  hidden : s.scrollviewIsHidden = (images response).isEmpty
  numberOfPages : s.numberOfPages = (images response).length
  currentPage : s.currentPage = 0
  started : (done ++ s.tasks).Perm (imageTasks isURL bounds (images response))
  subviews : s.subviews = done.filterMap (taskView outcome)
  contentSize : s.subviews ≠ [] →
    s.contentSize = ⟨bounds.width * (images response).length, bounds.height⟩

/-- What is on screen once an answer has been shown: title and content, and of the images those
whose downloads have brought them so far, each on its page. -/
structure Displays (s : CapsuleViewController α) : Prop where
  content : s.contentLabel = response.result.map CapsuleDetailResponse.ResultData.content
  title : s.capsuleTitleLabel = response.result.map CapsuleDetailResponse.ResultData.title
  hidden : s.scrollviewIsHidden = (images response).isEmpty
  numberOfPages : s.numberOfPages = (images response).length
  currentPage : s.currentPage = 0
  part : s.subviews.Subperm (pages isURL outcome bounds (images response))
  all : s.tasks = [] → s.subviews.Perm (pages isURL outcome bounds (images response))
  host : ∀ task ∈ s.tasks, cloudfront.toList <+: task.url.toList
  apart : 0 ≤ bounds.width → s.subviews.Pairwise Apart
  within : 0 ≤ bounds.width → ∀ v ∈ s.subviews, Within s.contentSize v

end Laid

/-- The invariant of the runs that execute a part of `es`. -/
def Tracked (isURL : String → Bool) (outcome : Nat → Option α) (es : List CapsuleEvent)
    (s : CapsuleViewController α) : Prop :=
  (∀ x ∈ s.details, ∀ result ∈ x.answer, Answered es result) ∧
    (s.Waiting ∨ ∃ response bounds done, Answered es (.success response) ∧
      Laid isURL outcome response bounds done s)

section Run
variable {isURL : String → Bool} {outcome : Nat → Option α} {response : CapsuleDetailResponse}
  {bounds : CGSize} {s t : CapsuleViewController α} {done : List DataTask}

/-- What the started downloads and the finished ones say about the screen. -/
lemma Laid.displays (laid : Laid isURL outcome response bounds done s) :
    Displays isURL outcome response bounds s := by
  have part : s.subviews.Subperm (pages isURL outcome bounds (images response)) := by
    have finished : done.Subperm (imageTasks isURL bounds (images response)) :=
      (List.sublist_append_left done s.tasks).subperm.trans laid.started.subperm
    obtain ⟨l, perm, sub⟩ := finished
    rw [laid.subviews]
    exact ⟨l.filterMap (taskView outcome), perm.filterMap _, sub.filterMap _⟩
  refine ⟨laid.content, laid.title, laid.hidden, laid.numberOfPages, laid.currentPage, part,
    ?_, ?_, ?_, ?_⟩
  · intro finished
    have all := laid.started
    rw [finished, List.append_nil] at all
    rw [laid.subviews]
    exact all.filterMap _
  · intro task running
    have started := laid.started.subset (List.mem_append_right done running)
    exact (of_mem_imageTasks started).2.2.2
  · intro positive
    obtain ⟨l, perm, sub⟩ := part
    exact (perm.pairwise_iff fun apart => Or.symm apart).1 ((pairwise_pages positive).sublist sub)
  · intro positive v hv
    rw [laid.contentSize (List.ne_nil_of_mem hv)]
    exact within_of_mem_pages positive (part.subset hv)

/-- A finished download moves from the running ones to the finished ones. -/
lemma Laid.finished (laid : Laid isURL outcome response bounds done s) {i : Nat} {task : DataTask}
    (found : s.tasks[i]? = some task) :
    Laid isURL outcome response bounds (done ++ [task])
      ({ s with tasks := s.tasks.eraseIdx i }.imageHandler task (outcome task.index)) := by
  obtain ⟨lt, rfl⟩ := List.getElem?_eq_some_iff.1 found
  have moved : (done ++ [s.tasks[i]] ++ s.tasks.eraseIdx i).Perm (done ++ s.tasks) := by
    rw [List.append_assoc]
    exact (List.getElem_cons_eraseIdx_perm lt).append_left done
  have started := moved.trans laid.started
  obtain ⟨_, width, height, _⟩ := of_mem_imageTasks (started.subset (by simp : s.tasks[i] ∈ _))
  cases brought : outcome s.tasks[i].index with
  | none =>
    have nothing : taskView outcome s.tasks[i] = none := by rw [taskView, brought]; rfl
    refine { laid with started := started, subviews := ?_ }
    rw [List.filterMap_append, List.filterMap_cons_none nothing, List.filterMap_nil,
      List.append_nil]
    exact laid.subviews
  | some image =>
    have view : taskView outcome s.tasks[i] = some (imageView s.tasks[i] image) := by
      rw [taskView, brought]
      rfl
    refine { laid with started := started, subviews := ?_, contentSize := fun _ => ?_ }
    · rw [List.filterMap_append, List.filterMap_cons_some view, List.filterMap_nil,
        ← laid.subviews]
      rfl
    · show CGSize.mk (s.tasks[i].imageWidth * s.imageUrls.length) s.tasks[i].imageHeight = _
      rw [width, height, laid.imageUrls]

/-- Once an answer is shown, only downloads change what is on screen. -/
lemma step_laid (laid : Laid isURL outcome response bounds done s) {e : CapsuleEvent}
    (h : s.step isURL outcome e = some t) : ∃ done, Laid isURL outcome response bounds done t := by
  cases e with
  | detail size traffic =>
    simp only [step, laid.details, Wire.step_nil] at h
    cases h
    exact ⟨done, { laid with details := rfl }⟩
  | finished i =>
    simp only [step] at h
    split at h
    · next task found =>
      cases h
      exact ⟨_, laid.finished found⟩
    · cases h
      exact ⟨done, laid⟩
  | scroll contentOffset frameWidth =>
    simp only [step, laid.delegate] at h
    cases h
    exact ⟨done, laid⟩

/-- The handler of a successful answer shows it and starts the downloads. -/
lemma Waiting.shows (waiting : s.Waiting) :
    Laid isURL outcome response bounds []
      ({ s with details := [] }.detailHandler isURL bounds (.success response)) := by
  rw [waiting.initial]
  have none_of (empty : images response = []) :
      Laid isURL outcome response bounds [] (α := α)
        { capsuleID := s.capsuleID
          contentLabel := response.result.map CapsuleDetailResponse.ResultData.content
          capsuleTitleLabel := response.result.map CapsuleDetailResponse.ResultData.title
          scrollviewIsHidden := true, pageControlIsHidden := true, contentCentered := true } := by
    refine ⟨rfl, rfl, rfl, rfl, empty.symm, ?_, ?_, rfl, ?_, rfl, fun h => absurd rfl h⟩
    · rw [empty]; rfl
    · rw [empty]; rfl
    · rw [empty]; rfl
  simp only [detailHandler]
  cases found : response.result.bind CapsuleDetailResponse.ResultData.imageList with
  | none =>
    apply none_of
    rw [images, found]
    rfl
  | some urls =>
    have brought : images response = urls := by rw [images, found]; rfl
    cases urls with
    | nil => exact none_of brought
    | cons url urls =>
      refine ⟨rfl, rfl, rfl, rfl, brought.symm, ?_, ?_, ?_, ?_, rfl, fun h => absurd rfl h⟩
      · rw [brought]; rfl
      · rw [brought]; rfl
      · exact Nat.zero_min _
      · rw [brought]; rfl

/-- A waiting screen goes on waiting until a successful answer is picked up. -/
lemma step_waiting (waiting : s.Waiting) {e : CapsuleEvent}
    (h : s.step isURL outcome e = some t) :
    t.Waiting ∨ ∃ r response bounds,
      ⟨r, some (.success response)⟩ ∈ s.details ∧ Laid isURL outcome response bounds [] t := by
  cases e with
  | detail size traffic =>
    obtain ⟨details, d, hw⟩ := s.details.exists_step traffic
    have moves := Wire.moves_of_step hw
    have still : Waiting { s with details } := by
      refine ⟨moves.length_le.trans waiting.one, ?_, by rw [waiting.initial]⟩
      intro x hx
      obtain ⟨y, hy, e⟩ := moves.request hx
      rw [← e]
      exact waiting.request y hy
    simp only [step, hw] at h
    cases d with
    | none =>
      cases h
      exact .inl still
    | some d =>
      obtain ⟨r, result⟩ := d
      cases h
      cases result with
      | failure => exact .inl still
      | success response =>
        have none_left : details = [] := by
          have one := waiting.one
          generalize s.details = w at one moves
          cases moves with
          | @deliver l1 l2 =>
            rw [List.length_append, List.length_cons] at one
            rw [List.length_eq_zero_iff.1 (show l1.length = 0 by omega),
              List.length_eq_zero_iff.1 (show l2.length = 0 by omega), List.nil_append]
        subst none_left
        exact .inr ⟨r, response, size, moves.delivered rfl, waiting.shows⟩
  | finished i =>
    have idle : s.tasks = [] := by rw [waiting.initial]
    simp only [step, idle] at h
    cases h
    exact .inl waiting
  | scroll contentOffset frameWidth =>
    have undelegated : s.scrollviewDelegate = false := by rw [waiting.initial]
    simp only [step, undelegated] at h
    cases h
    exact .inl waiting

/-- The handler of an answer sends nothing. -/
@[simp]
lemma detailHandler_details (s : CapsuleViewController α) (result : AFResult CapsuleDetailResponse) :
    (s.detailHandler isURL bounds result).details = s.details := by
  cases result with
  | failure => rfl
  | success response =>
    simp only [detailHandler]
    split
    · split <;> rfl
    · rfl

/-- An answer on the wire was there before, or has just been given. -/
lemma step_answers {e : CapsuleEvent} (h : s.step isURL outcome e = some t)
    {x : Exchange DetailRequest (AFResult CapsuleDetailResponse)} (hx : x ∈ t.details)
    {result : AFResult CapsuleDetailResponse} (answer : x.answer = some result) :
    x ∈ s.details ∨ ∃ bounds i, e = .detail bounds (.reply i result) := by
  cases e with
  | detail size traffic =>
    obtain ⟨details, d, hw⟩ := s.details.exists_step traffic
    have kept : t.details = details := by
      simp only [step, hw] at h
      cases d with
      | none => cases h; rfl
      | some d => cases h; exact detailHandler_details _ d.2
    rw [kept] at hx
    rcases (Wire.moves_of_step hw).mem hx with hx | ⟨i, a, r, rfl, _, rfl⟩
    · exact .inl hx
    · cases answer
      exact .inr ⟨size, i, rfl⟩
  | finished i =>
    simp only [step] at h
    split at h
    · next task _ =>
      cases h
      cases brought : outcome task.index <;> rw [brought] at hx <;> exact .inl hx
    · cases h
      exact .inl hx
  | scroll contentOffset frameWidth =>
    simp only [step, scrollViewDidScroll] at h
    split at h
    · split at h
      · cases h
      · cases h
        exact .inl hx
    · cases h
      exact .inl hx

/-- A loaded screen waits. -/
lemma viewDidLoad_waiting (keychain : Keychain) (capsuleID : Int) :
    (viewDidLoad (α := α) keychain capsuleID).Waiting ∧
      ∀ x ∈ (viewDidLoad (α := α) keychain capsuleID).details, x.answer = none := by
  unfold viewDidLoad displayCapsuleDetail
  split
  · refine ⟨⟨le_rfl, ?_, rfl⟩, ?_⟩
    · simp [Wire.send]
    · simp [Wire.send]
  · refine ⟨⟨Nat.zero_le 1, ?_, rfl⟩, ?_⟩
    · simp
    · simp

/-- Every step keeps the invariant. -/
lemma step_tracked {es : List CapsuleEvent} (s : CapsuleViewController α) (e : CapsuleEvent)
    (he : e ∈ es) (tracked : s.Tracked isURL outcome es) :
    Run.After (step isURL outcome) (Tracked isURL outcome es) s e := by
  obtain ⟨answers, phase⟩ := tracked
  intro t ht
  constructor
  · intro x hx result answer
    rcases step_answers ht hx answer with old | ⟨bounds, i, rfl⟩
    · exact answers x old result answer
    · exact ⟨bounds, i, he⟩
  · rcases phase with waiting | ⟨response, bounds, done, answered, laid⟩
    · rcases step_waiting waiting ht with waiting | ⟨r, response, bounds, mem, laid⟩
      · exact .inl waiting
      · exact .inr ⟨response, bounds, [], answers _ mem _ rfl, laid⟩
    · obtain ⟨done, laid⟩ := step_laid laid ht
      exact .inr ⟨response, bounds, done, answered, laid⟩

end Run

end CapsuleViewController
end TimeCapsule.Home
