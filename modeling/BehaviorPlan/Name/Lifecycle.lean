import BehaviorPlan.Name.Casing
import BehaviorPlan.Name.Identifier

/-! # Lifecycle events

A function whose name spells a Unity event, or ends in one, is a lifecycle hook. The event is
read off the name, and so is the behavior that an unassigned function belongs to. -/
namespace BehaviorPlan.Name

def unityEvents : List String :=
  ["Awake", "Start", "Update", "LateUpdate", "FixedUpdate", "OnEnable", "OnDisable", "OnDestroy",
    "OnTriggerEnter", "OnTriggerExit", "OnTriggerStay", "OnCollisionEnter", "OnCollisionExit",
    "OnCollisionStay", "OnPointerClick", "OnPointerDown", "OnPointerUp", "OnPointerEnter",
    "OnPointerExit", "OnDrag", "OnBeginDrag", "OnEndDrag", "OnDrop", "OnPlayerJoined",
    "OnPlayerLeft", "OnPlayerRespawn", "OnStationEntered", "OnStationExited",
    "OnOwnershipTransferred", "OnDeserialization", "OnPreSerialization", "OnPostSerialization",
    "OnPickup", "OnPickupUseDown", "OnPickupUseUp", "OnVideoStart", "OnVideoEnd", "OnVideoError",
    "OnVideoReady", "OnVideoPlay", "OnVideoPause"]

def networkingEvents : List String :=
  ["OnDeserialization", "OnPreSerialization", "OnPostSerialization", "OnOwnershipTransferred"]

/-- Event endings that are cut from a function name in camel case to get the behavior. -/
def cutEndings : List String :=
  ["OnEnable", "OnDisable", "Update", "Start", "Awake"]

def isUnityEvent (name : String) : Bool :=
  unityEvents.contains name

def isEvent (name : String) : Bool :=
  isUnityEvent name || isIdentifier name

def segments (name : String) : List (List Char) :=
  (name.toList.splitOn '_').filter (· ≠ [])

def pascalSegments (parts : List (List Char)) : String :=
  String.ofList (pascalText (['_'].intercalate parts))

def endsWithin (name ending : String) : Bool :=
  ending.toList.isSuffixOf name.toList && decide (ending.length < name.length)

def dropEnding (name ending : String) : String :=
  String.ofList (name.toList.take (name.length - ending.length))

/-- Unity events, longest first; events of equal length stay in their order. -/
def eventsByLength : List String :=
  unityEvents.mergeSort fun a b => decide (b.length ≤ a.length)

/-- The first event that a proper tail of the segments spells. -/
def segmentEvent? (parts : List (List Char)) : Option String :=
  ((List.range parts.length).drop 1).findSome? fun i =>
    let event := pascalSegments (parts.drop i)
    if isUnityEvent event then some event else none

def endingEvent? (name : String) : Option String :=
  let capital := capitalize name
  if isUnityEvent capital then some capital else eventsByLength.find? (endsWithin capital)

/-- The event that a function implements: the whole name, else the longest tail of its
segments, else the longest ending. -/
def lifecycleEvent? (name : String) : Option String :=
  if name = "" then none
  else
    let pascal := toPascal name
    if isUnityEvent pascal then some pascal
    else if '_' ∈ name.toList then segmentEvent? (segments name)
    else endingEvent? name

def isLifecycleHook (name : String) : Bool :=
  (lifecycleEvent? name).isSome

/-- What the segments name once the tail that spells an event, or else the last one, is cut. -/
def stemOfSegments (parts : List (List Char)) : String :=
  match ((List.range parts.length).drop 1).find? fun i =>
      isUnityEvent (pascalSegments (parts.drop i)) with
  | some i => pascalSegments (parts.take i)
  | none => pascalSegments parts.dropLast

/-- The behavior that a function belongs to, going by its name. -/
def inferBehavior (name : String) : String :=
  if '_' ∈ name.toList then
    let parts := segments name
    if parts.length ≤ 1 then toPascal name else stemOfSegments parts
  else
    let capital := capitalize name
    match cutEndings.find? (endsWithin capital) with
    | some ending => dropEnding capital ending
    | none => capital

theorem isEvent_of_isUnityEvent {name : String} (h : isUnityEvent name = true) :
    isEvent name = true := by
  simp [isEvent, h]

theorem networkingEvents_subset : ∀ e ∈ networkingEvents, isUnityEvent e = true := by
  decide

theorem lifecycleEvent?_empty : lifecycleEvent? "" = none := by
  simp [lifecycleEvent?]

theorem isUnityEvent_of_lifecycleEvent? {name event : String}
    (h : lifecycleEvent? name = some event) : isUnityEvent event = true := by
  unfold lifecycleEvent? at h
  split at h
  · simp at h
  · dsimp only at h
    split at h
    · simp_all
    · split at h
      · unfold segmentEvent? at h
        obtain ⟨i, _, hi⟩ := List.exists_of_findSome?_eq_some h
        dsimp only at hi
        split at hi <;> simp_all
      · unfold endingEvent? at h
        dsimp only at h
        split at h
        · simp_all
        · have hm := List.mem_of_find?_eq_some h
          simpa [eventsByLength, isUnityEvent] using hm

end BehaviorPlan.Name
