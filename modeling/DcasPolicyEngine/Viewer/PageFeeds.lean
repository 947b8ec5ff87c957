import Mathlib.Data.List.Nodup
import Mathlib.Data.List.Perm.Basic
import DcasPolicyEngine.Viewer.Page

/-!
# The pictures of the page

The page makes an object URL of every frame and revokes that of the last frame of the same channel.
`Feeds` says which URLs are left: that of the picture in each feed, and those of the frames that no
feed shows.
-/

namespace DcasPolicyEngine

/-- The picture of a frame for the channel. -/
def channelPicture (channel : UInt8) : PageEvent → Option (List UInt8)
  | .binary data => if data.head? = some channel then some data.tail else none
  | .opened | .closed | .text _ _ => none

/-- The picture of a frame for no channel that the page knows. -/
def unknownPicture : PageEvent → Option (List UInt8)
  | .binary data =>
      if data.head? = some 1 ∨ data.head? = some 2 then none else some data.tail
  | .opened | .closed | .text _ _ => none

/-- The picture of the last frame for the channel. -/
def lastPicture (channel : UInt8) (events : List PageEvent) : Option (List UInt8) :=
  (events.filterMap (channelPicture channel)).getLast?

/-- The pictures of the frames for no channel. -/
def unknownPictures (events : List PageEvent) : List (List UInt8) :=
  events.filterMap unknownPicture

theorem last_picture_concat (channel : UInt8) (events : List PageEvent) (event : PageEvent) :
    lastPicture channel (events ++ [event]) =
      (channelPicture channel event).or (lastPicture channel events) := by
  cases hpicture : channelPicture channel event <;> simp [lastPicture, hpicture]

theorem unknown_pictures_concat (events : List PageEvent) (event : PageEvent) :
    unknownPictures (events ++ [event]) =
      unknownPictures events ++ (unknownPicture event).toList := by
  cases hpicture : unknownPicture event <;> simp [unknownPictures, hpicture]

/-- The picture that a feed shows, if its URL has not been revoked. -/
def Page.picture (self : Page) (feed : PageFeed) : Option (List UInt8) :=
  feed.src.bind fun url => self.objectUrls.lookup url

/-- A feed with a URL, or without one. -/
def feedOf (url : Option ℕ) : PageFeed :=
  { src := url, shown := url.isSome, placeholder := url.isNone }

/-! ## Object URLs -/

section ObjectUrls

variable {urls rest : List (ℕ × List UInt8)} {entry : Option (ℕ × List UInt8)}

/-- What is left after one URL is revoked. -/
theorem revoke_perm (hperm : urls.Perm (entry.toList ++ rest))
    (hnodup : (urls.map Prod.fst).Nodup) :
    (urls.filter fun other => some other.1 ≠ entry.map Prod.fst).Perm rest := by
  refine (hperm.filter _).trans (.of_eq ?_)
  cases entry with
  | none => simp
  | some entry =>
      have hkeys : (entry.1 :: rest.map Prod.fst).Nodup := (hperm.map Prod.fst).nodup_iff.mp hnodup
      have hrest : ∀ other ∈ rest, other.1 ≠ entry.1 := by
        intro other hmem heq
        exact (List.nodup_cons.mp hkeys).1 (heq ▸ List.mem_map_of_mem hmem)
      show (entry :: rest).filter _ = rest
      rw [List.filter_cons_of_neg (by simp)]
      exact List.filter_eq_self.mpr fun other hmem => by simpa using hrest other hmem

/-- A URL that is listed once is found. -/
theorem lookup_of_mem {url : ℕ} {picture : List UInt8} (hnodup : (urls.map Prod.fst).Nodup)
    (hmem : (url, picture) ∈ urls) : urls.lookup url = some picture := by
  induction urls with
  | nil => cases hmem
  | cons entry urls ih =>
      obtain ⟨hhead, htail⟩ := List.nodup_cons.mp hnodup
      rcases List.mem_cons.mp hmem with rfl | hmem
      · exact List.lookup_cons_self
      · have hne : url ≠ entry.1 := by
          intro heq
          exact hhead (List.mem_map.mpr ⟨(url, picture), hmem, heq⟩)
        rw [List.lookup_cons, beq_false_of_ne hne]
        exact ih htail hmem

end ObjectUrls

/-! ## The feeds -/

/-- The URLs that are left: those of the two feeds, each with the last picture of its channel, and
those that no feed shows. -/
structure Page.Feeds (page : Page) (lkas driver : Option (ℕ × List UInt8))
    (unknown : List (ℕ × List UInt8)) : Prop where
  perm : page.objectUrls.Perm (lkas.toList ++ driver.toList ++ unknown)
  nodup : (page.objectUrls.map Prod.fst).Nodup
  created : ∀ entry ∈ page.objectUrls, entry.1 < page.createdUrls
  lkas_blob : page.lkasBlob = lkas.map Prod.fst
  driver_blob : page.driverBlob = driver.map Prod.fst
  lkas_feed : page.lkasFeed = feedOf (lkas.map Prod.fst)
  driver_feed : page.driverFeed = feedOf (driver.map Prod.fst)

namespace Page.Feeds

variable {self : Page} {lkas driver : Option (ℕ × List UInt8)} {unknown : List (ℕ × List UInt8)}

theorem start : ({} : Page).Feeds none none [] :=
  ⟨.refl [], List.nodup_nil, fun _ hmem => absurd hmem List.not_mem_nil, rfl, rfl, rfl, rfl⟩

/-- A frame for a channel takes the place of the last one. -/
theorem show_frame (h : self.Feeds lkas driver unknown) (data : List UInt8) :
    (self.showFrame data).Feeds
      (if data.head? = some 1 then some (self.createdUrls, data.tail) else lkas)
      (if data.head? = some 2 then some (self.createdUrls, data.tail) else driver)
      (if data.head? = some 1 ∨ data.head? = some 2 then unknown
        else (self.createdUrls, data.tail) :: unknown) := by
  have hcreated : ∀ entry ∈ (self.createdUrls, data.tail) :: self.objectUrls,
      entry.1 < self.createdUrls + 1 := by
    intro entry hmem
    rcases List.mem_cons.mp hmem with rfl | hmem
    · exact Nat.lt_succ_self _
    · exact (h.created entry hmem).trans (Nat.lt_succ_self _)
  have hnodup : (((self.createdUrls, data.tail) :: self.objectUrls).map Prod.fst).Nodup := by
    refine List.nodup_cons.mpr ⟨fun hmem => ?_, h.nodup⟩
    obtain ⟨entry, hentry, heq⟩ := List.mem_map.mp hmem
    have hless := h.created entry hentry
    have hsame : entry.1 = self.createdUrls := heq
    omega
  have hrevoke {entry : Option (ℕ × List UInt8)} {rest : List (ℕ × List UInt8)}
      (hperm : self.objectUrls.Perm (entry.toList ++ rest)) :
      (((self.createdUrls, data.tail) :: self.objectUrls).filter fun other =>
        some other.1 ≠ entry.map Prod.fst).Perm ((self.createdUrls, data.tail) :: rest) :=
    revoke_perm ((hperm.cons _).trans List.perm_middle.symm) hnodup
  have hleft (url : Option ℕ) :
      ((((self.createdUrls, data.tail) :: self.objectUrls).filter fun other =>
          some other.1 ≠ url).map Prod.fst).Nodup ∧
        ∀ entry ∈ ((self.createdUrls, data.tail) :: self.objectUrls).filter fun other =>
          some other.1 ≠ url, entry.1 < self.createdUrls + 1 :=
    ⟨hnodup.sublist (List.filter_sublist.map Prod.fst),
      fun entry hmem => hcreated entry (List.mem_of_mem_filter hmem)⟩
  unfold showFrame
  dsimp only
  by_cases hlkas : data.head? = some 1
  · have hdriver : data.head? ≠ some 2 := by
      rw [hlkas]
      decide
    rw [if_pos hlkas, if_pos hlkas, if_neg hdriver, if_pos (.inl hlkas)]
    have hperm := hrevoke (h.perm.trans (.of_eq (List.append_assoc _ _ _)))
    rw [← h.lkas_blob] at hperm
    obtain ⟨hkeys, hfresh⟩ := hleft self.lkasBlob
    exact ⟨hperm, hkeys, hfresh, rfl, h.driver_blob, rfl, h.driver_feed⟩
  · by_cases hdriver : data.head? = some 2
    · rw [if_neg hlkas, if_neg hlkas, if_pos hdriver, if_pos hdriver, if_pos (.inr hdriver)]
      have hswap : (lkas.toList ++ driver.toList ++ unknown).Perm
          (driver.toList ++ (lkas.toList ++ unknown)) := by
        rw [← List.append_assoc]
        exact List.perm_append_comm.append_right unknown
      have hperm := hrevoke (h.perm.trans hswap)
      rw [← h.driver_blob] at hperm
      obtain ⟨hkeys, hfresh⟩ := hleft self.driverBlob
      refine ⟨hperm.trans ?_, hkeys, hfresh, h.lkas_blob, rfl, h.lkas_feed, rfl⟩
      show ((self.createdUrls, data.tail) :: (lkas.toList ++ unknown)).Perm
        (lkas.toList ++ [(self.createdUrls, data.tail)] ++ unknown)
      rw [List.append_assoc]
      exact List.perm_middle.symm
    · rw [if_neg hlkas, if_neg hlkas, if_neg hdriver, if_neg hdriver,
        if_neg (not_or.mpr ⟨hlkas, hdriver⟩)]
      exact ⟨(h.perm.cons _).trans List.perm_middle.symm, hnodup, hcreated, h.lkas_blob,
        h.driver_blob, h.lkas_feed, h.driver_feed⟩

/-- A feed shows its picture. -/
theorem picture_eq (h : self.Feeds lkas driver unknown) {entry : Option (ℕ × List UInt8)}
    (hmem : ∀ shown ∈ entry, shown ∈ self.objectUrls) :
    self.picture (feedOf (entry.map Prod.fst)) = entry.map Prod.snd := by
  cases entry with
  | none => rfl
  | some shown => exact lookup_of_mem h.nodup (hmem shown rfl)

end Page.Feeds

/-- Every sequence of messages leaves the URLs of the last pictures of the two channels and those of
the frames for no channel. -/
theorem feeds_run (events : List PageEvent) :
    ∃ lkas driver unknown, (page.run {} events).Feeds lkas driver unknown ∧
      lkas.map Prod.snd = lastPicture 1 events ∧ driver.map Prod.snd = lastPicture 2 events ∧
      (unknown.map Prod.snd).Perm (unknownPictures events) := by
  induction events using List.reverseRecOn with
  | nil => exact ⟨none, none, [], .start, rfl, rfl, .refl []⟩
  | append_singleton events event ih =>
      obtain ⟨lkas, driver, unknown, hfeeds, hlkas, hdriver, hunknown⟩ := ih
      have hother (hkept : ((page.run {} events).handle event).Feeds lkas driver unknown)
          (hone : channelPicture 1 event = none) (htwo : channelPicture 2 event = none)
          (hnone : unknownPicture event = none) :
          ∃ lkas driver unknown, (page.run {} (events ++ [event])).Feeds lkas driver unknown ∧
            lkas.map Prod.snd = lastPicture 1 (events ++ [event]) ∧
            driver.map Prod.snd = lastPicture 2 (events ++ [event]) ∧
            (unknown.map Prod.snd).Perm (unknownPictures (events ++ [event])) := by
        rw [Machine.run_concat, last_picture_concat, last_picture_concat, unknown_pictures_concat,
          hone, htwo, hnone]
        exact ⟨lkas, driver, unknown, hkept, hlkas, hdriver, (List.append_nil _).symm ▸ hunknown⟩
      cases event with
      | opened => exact hother { hfeeds with } rfl rfl rfl
      | closed => exact hother { hfeeds with } rfl rfl rfl
      | text message browser =>
          refine hother ?_ rfl rfl rfl
          unfold Page.handle
          dsimp only
          split
          · split <;> exact { hfeeds with }
          · exact hfeeds
      | binary data =>
          rw [Machine.run_concat, last_picture_concat, last_picture_concat,
            unknown_pictures_concat]
          refine ⟨_, _, _, hfeeds.show_frame data, ?_, ?_, ?_⟩
          · show Option.map _ _ = (if _ then _ else none : Option _).or _
            rw [← hlkas]
            split_ifs <;> rfl
          · show Option.map _ _ = (if _ then _ else none : Option _).or _
            rw [← hdriver]
            split_ifs <;> rfl
          · show (List.map _ _).Perm (_ ++ (if _ then none else _ : Option _).toList)
            split_ifs
            · exact (List.append_nil _).symm ▸ hunknown
            · exact (hunknown.cons data.tail).trans (@List.perm_append_comm _ [data.tail] _)

/-- The feed of the road shows the last picture for it. -/
theorem picture_lkas_feed (events : List PageEvent) :
    (page.run {} events).picture (page.run {} events).lkasFeed = lastPicture 1 events := by
  obtain ⟨lkas, driver, unknown, hfeeds, hlkas, _, _⟩ := feeds_run events
  rw [hfeeds.lkas_feed, ← hlkas]
  refine hfeeds.picture_eq fun shown hshown => hfeeds.perm.mem_iff.mpr ?_
  exact List.mem_append_left _ (List.mem_append_left _ (Option.mem_toList.mpr hshown))

/-- The feed of the driver shows the last picture for it. -/
theorem picture_driver_feed (events : List PageEvent) :
    (page.run {} events).picture (page.run {} events).driverFeed = lastPicture 2 events := by
  obtain ⟨lkas, driver, unknown, hfeeds, _, hdriver, _⟩ := feeds_run events
  rw [hfeeds.driver_feed, ← hdriver]
  refine hfeeds.picture_eq fun shown hshown => hfeeds.perm.mem_iff.mpr ?_
  exact List.mem_append_left _ (List.mem_append_right _ (Option.mem_toList.mpr hshown))

/-- The URLs that are left are those of the two pictures and of the frames for no channel. -/
theorem object_urls_perm (events : List PageEvent) :
    ((page.run {} events).objectUrls.map Prod.snd).Perm
      ((lastPicture 1 events).toList ++ (lastPicture 2 events).toList ++
        unknownPictures events) := by
  obtain ⟨lkas, driver, unknown, hfeeds, hlkas, hdriver, hunknown⟩ := feeds_run events
  refine (hfeeds.perm.map Prod.snd).trans ?_
  rw [List.map_append, List.map_append, ← hlkas, ← hdriver]
  cases lkas <;> cases driver <;> exact hunknown.append_left _

/-- Whatever messages have come, each feed shows the picture of the last frame for its channel, and
no URL is left but those of the two pictures and of the frames for no channel. -/
theorem page_feeds (events : List PageEvent) :
    (page.run {} events).picture (page.run {} events).lkasFeed = lastPicture 1 events ∧
      (page.run {} events).picture (page.run {} events).driverFeed = lastPicture 2 events ∧
      ((page.run {} events).objectUrls.map Prod.snd).Perm
        ((lastPicture 1 events).toList ++ (lastPicture 2 events).toList ++
          unknownPictures events) :=
  ⟨picture_lkas_feed events, picture_driver_feed events, object_urls_perm events⟩

end DcasPolicyEngine
