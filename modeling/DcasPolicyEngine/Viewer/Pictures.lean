import DcasPolicyEngine.Viewer.FrameOrder
import DcasPolicyEngine.Viewer.PageFeeds

/-!
# From the cameras to the page

The two cameras share the connection of a browser, and the first byte of a frame tells them apart.
`viewer_feeds_isolated` says that the feeds of the page do, too.
-/

namespace DcasPolicyEngine

/-- The frames that the viewer broadcasts. -/
def viewerFrames (calls : List ViewerCall) : List (List UInt8) :=
  (viewer.outputs {} calls).filterMap fun message => message.bind ViewerMessage.frame

/-- What the viewer broadcasts of a picture of a camera. -/
theorem frame_of_broadcast_frame {channel : UInt8} {lastTime now : ℚ} {clientCount : ℕ}
    {encoded : Option (List UInt8)} {data : List UInt8}
    (h : (broadcastFrame channel lastTime now clientCount encoded).1.bind ViewerMessage.frame =
      some data) : ∃ picture, encoded = some picture ∧ data = channel :: picture := by
  unfold broadcastFrame at h
  split_ifs at h
  · cases h
  · cases h
  · cases encoded with
    | none => cases h
    | some picture => exact ⟨picture, rfl, (Option.some.inj h).symm⟩

/-- A status is a text. -/
theorem receive_status_frame (self : DCASWebViewer) (now : ℚ) (clientCount : ℕ)
    (raw clock : List Char) :
    (self.receiveStatus now clientCount raw clock).1.bind ViewerMessage.frame = none := by
  unfold DCASWebViewer.receiveStatus
  cases Json.parse raw with
  | none => rfl
  | some data =>
      dsimp only
      unfold DCASWebViewer.broadcastStatus
      split_ifs
      · rfl
      · rfl
      · cases data <;> rfl

/-- A frame that a call broadcasts starts with the channel of its camera. -/
theorem frame_of_call {self : DCASWebViewer} {call : ViewerCall} {data : List UInt8}
    (h : (self.call call).1.bind ViewerMessage.frame = some data) :
    (∃ now clientCount picture, call = .lkasFrame now clientCount (some picture) ∧
        data = lkasChannel :: picture) ∨
      ∃ now clientCount picture, call = .driverFrame now clientCount (some picture) ∧
        data = driverChannel :: picture := by
  cases call with
  | lkasFrame now clientCount encoded =>
      obtain ⟨picture, rfl, hdata⟩ := frame_of_broadcast_frame h
      exact .inl ⟨now, clientCount, picture, rfl, hdata⟩
  | driverFrame now clientCount encoded =>
      obtain ⟨picture, rfl, hdata⟩ := frame_of_broadcast_frame h
      exact .inr ⟨now, clientCount, picture, rfl, hdata⟩
  | status now clientCount raw clock =>
      have htext : (self.receiveStatus now clientCount raw clock).1.bind ViewerMessage.frame =
          none := receive_status_frame self now clientCount raw clock
      cases htext.symm.trans h

/-- Every frame of the viewer is that of a picture of one of the cameras. -/
theorem mem_viewer_frames {calls : List ViewerCall} {data : List UInt8}
    (h : data ∈ viewerFrames calls) :
    (∃ now clientCount picture, .lkasFrame now clientCount (some picture) ∈ calls ∧
        data = lkasChannel :: picture) ∨
      ∃ now clientCount picture, .driverFrame now clientCount (some picture) ∈ calls ∧
        data = driverChannel :: picture := by
  obtain ⟨message, hmessage, hframe⟩ := List.mem_filterMap.mp h
  obtain ⟨e, he, rfl⟩ := List.mem_map.mp hmessage
  have hcall : e.input ∈ calls := viewer.input_mem_of_mem_trace he
  have houtput : e.output = (e.before.call e.input).1 :=
    congrArg Machine.Event.output (viewer.event_of_mem_trace he)
  rw [houtput] at hframe
  rcases frame_of_call hframe with ⟨now, clientCount, picture, hinput, hdata⟩ |
    ⟨now, clientCount, picture, hinput, hdata⟩
  · exact .inl ⟨now, clientCount, picture, hinput ▸ hcall, hdata⟩
  · exact .inr ⟨now, clientCount, picture, hinput ▸ hcall, hdata⟩

/-- The picture of the last frame for a channel came in a message. -/
theorem mem_of_last_picture {channel : UInt8} {events : List PageEvent} {picture : List UInt8}
    (h : lastPicture channel events = some picture) :
    .binary (channel :: picture) ∈ events := by
  obtain ⟨event, hmem, hpicture⟩ := List.mem_filterMap.mp (List.mem_of_getLast? h)
  cases event with
  | binary data =>
      have hdata : (if data.head? = some channel then some data.tail else none) = some picture :=
        hpicture
      split_ifs at hdata with hchannel
      cases data with
      | nil => cases hchannel
      | cons first rest =>
          obtain rfl := Option.some.inj hchannel
          obtain rfl := Option.some.inj hdata
          exact hmem
  | _ => cases hpicture

/-- Whatever the interleaving of the server and the connections of the page, the feed of the road
shows pictures of the camera of the road only, the feed of the driver those of the camera of the
driver only, and the page never keeps more than two URLs. -/
theorem viewer_feeds_isolated {calls : List ViewerCall} {actions : List ServerAction}
    {events : List PageEvent}
    (hbroadcast : ∀ data ∈ broadcastFrames (webSocketServer.outputs {} actions),
      data ∈ viewerFrames calls)
    (hsent : ∀ data, .binary data ∈ events →
      ∃ client, data ∈ sentFrames client (webSocketServer.outputs {} actions)) :
    (∀ picture, (page.run {} events).picture (page.run {} events).lkasFeed = some picture →
        ∃ now clientCount, .lkasFrame now clientCount (some picture) ∈ calls) ∧
      (∀ picture, (page.run {} events).picture (page.run {} events).driverFeed = some picture →
        ∃ now clientCount, .driverFrame now clientCount (some picture) ∈ calls) ∧
      (page.run {} events).objectUrls.length ≤ 2 := by
  have hframe : ∀ data, .binary data ∈ events → data ∈ viewerFrames calls := by
    intro data hmem
    obtain ⟨client, hclient⟩ := hsent data hmem
    exact hbroadcast data ((sent_sublist_broadcast actions client).subset hclient)
  refine ⟨?_, ?_, ?_⟩
  · intro picture hpicture
    rw [picture_lkas_feed] at hpicture
    rcases mem_viewer_frames (hframe _ (mem_of_last_picture hpicture)) with
      ⟨now, clientCount, shown, hcall, hdata⟩ | ⟨now, clientCount, shown, hcall, hdata⟩
    · obtain ⟨_, rfl⟩ := List.cons.inj hdata
      exact ⟨now, clientCount, hcall⟩
    · cases (List.cons.inj hdata).1
  · intro picture hpicture
    rw [picture_driver_feed] at hpicture
    rcases mem_viewer_frames (hframe _ (mem_of_last_picture hpicture)) with
      ⟨now, clientCount, shown, hcall, hdata⟩ | ⟨now, clientCount, shown, hcall, hdata⟩
    · cases (List.cons.inj hdata).1
    · obtain ⟨_, rfl⟩ := List.cons.inj hdata
      exact ⟨now, clientCount, hcall⟩
  · have hunknown : unknownPictures events = [] := by
      refine List.filterMap_eq_nil_iff.mpr fun event hmem => ?_
      cases event with
      | binary data =>
          refine if_pos ?_
          rcases mem_viewer_frames (hframe data hmem) with
            ⟨_, _, _, _, rfl⟩ | ⟨_, _, _, _, rfl⟩
          · exact .inl rfl
          · exact .inr rfl
      | _ => rfl
    have hcount := (object_urls_perm events).length_eq
    rw [List.length_map, hunknown, List.append_nil, List.length_append] at hcount
    have hlkas := Option.length_toList_le (o := lastPicture 1 events)
    have hdriver := Option.length_toList_le (o := lastPicture 2 events)
    omega

/-- A frame of each camera. -/
def twoCameras : List ViewerCall := [.lkasFrame 1 1 (some [7]), .driverFrame 1 1 (some [9])]

/-- A browser connects, and is sent the two frames. -/
def twoFrames : List ServerAction :=
  [.accept 0, .add 0, .acquire (.binary [1, 7]), .visit 0, .hand false, .keep, .release,
    .complete 0 true, .acquire (.binary [2, 9]), .visit 0, .hand false, .keep, .release,
    .complete 1 true]

/-- The pictures of the frames are in the feeds of their cameras. -/
theorem viewer_feeds_isolated_two :
    (page.run {} [.binary [1, 7], .binary [2, 9]]).picture
        (page.run {} [.binary [1, 7], .binary [2, 9]]).lkasFeed = some [7] ∧
      (page.run {} [.binary [1, 7], .binary [2, 9]]).picture
        (page.run {} [.binary [1, 7], .binary [2, 9]]).driverFeed = some [9] ∧
      (∃ now clientCount, ViewerCall.lkasFrame now clientCount (some [7]) ∈ twoCameras) ∧
      (∃ now clientCount, ViewerCall.driverFrame now clientCount (some [9]) ∈ twoCameras) ∧
      (page.run {} [.binary [1, 7], .binary [2, 9]]).objectUrls.length ≤ 2 := by
  have hframes : viewerFrames twoCameras = [[1, 7], [2, 9]] := by decide +kernel
  have hbroadcast : broadcastFrames (webSocketServer.outputs {} twoFrames) = [[1, 7], [2, 9]] :=
    rfl
  have hsent : sentFrames 0 (webSocketServer.outputs {} twoFrames) = [[1, 7], [2, 9]] := rfl
  obtain ⟨hlkas, hdriver, hcount⟩ := @viewer_feeds_isolated twoCameras twoFrames
    [.binary [1, 7], .binary [2, 9]] (by rw [hframes, hbroadcast]; exact fun _ hmem => hmem) (by
      intro data hmem
      refine ⟨0, ?_⟩
      rw [hsent]
      simpa using hmem)
  have hroad : (page.run {} [.binary [1, 7], .binary [2, 9]]).picture
      (page.run {} [.binary [1, 7], .binary [2, 9]]).lkasFeed = some [7] := rfl
  have hcabin : (page.run {} [.binary [1, 7], .binary [2, 9]]).picture
      (page.run {} [.binary [1, 7], .binary [2, 9]]).driverFeed = some [9] := rfl
  exact ⟨hroad, hcabin, hlkas _ hroad, hdriver _ hcabin, hcount⟩

end DcasPolicyEngine
