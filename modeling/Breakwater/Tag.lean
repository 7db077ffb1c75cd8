/-!
The tags that the outcome of a command can carry, and what each of them counts for.
-/

namespace Breakwater

/-- What happened to a command; one execution may carry several tags. -/
inductive Tag where
  | success
  | failure
  | timeout
  | shortCircuited
  | threadPoolRejected
  | semaphoreRejected
  | badRequest
  | fallbackSuccess
  | fallbackFailure
  | fallbackRejection
  | fallbackMissing
  | cancelled
  deriving DecidableEq, Repr, Inhabited

namespace Tag

/-- All tags in their fixed order. -/
def all : List Tag :=
  [success, failure, timeout, shortCircuited, threadPoolRejected, semaphoreRejected,
    badRequest, fallbackSuccess, fallbackFailure, fallbackRejection, fallbackMissing, cancelled]

/-- Position of a tag in the fixed order. -/
def index : Tag → Fin 12
  | success => 0
  | failure => 1
  | timeout => 2
  | shortCircuited => 3
  | threadPoolRejected => 4
  | semaphoreRejected => 5
  | badRequest => 6
  | fallbackSuccess => 7
  | fallbackFailure => 8
  | fallbackRejection => 9
  | fallbackMissing => 10
  | cancelled => 11

/-- Every tag is listed at its own index. -/
theorem all_get_index (tag : Tag) : all[tag.index.val]? = some tag := by
  cases tag <;> rfl

theorem mem_all (tag : Tag) : tag ∈ all :=
  List.mem_of_getElem? (all_get_index tag)

/-- Different tags have different indices. -/
theorem index_injective {left right : Tag} (h : left.index = right.index) : left = right := by
  have same := all_get_index left
  rw [h, all_get_index right] at same
  exact (Option.some.inj same).symm

/-- Name in reports. -/
def name : Tag → String
  | success => "success"
  | failure => "failure"
  | timeout => "timeout"
  | shortCircuited => "short_circuited"
  | threadPoolRejected => "thread_pool_rejected"
  | semaphoreRejected => "semaphore_rejected"
  | badRequest => "bad_request"
  | fallbackSuccess => "fallback_success"
  | fallbackFailure => "fallback_failure"
  | fallbackRejection => "fallback_rejection"
  | fallbackMissing => "fallback_missing"
  | cancelled => "cancelled"

/-- Name in descriptions of values. -/
def caseName : Tag → String
  | success => "Success"
  | failure => "Failure"
  | timeout => "Timeout"
  | shortCircuited => "ShortCircuited"
  | threadPoolRejected => "ThreadPoolRejected"
  | semaphoreRejected => "SemaphoreRejected"
  | badRequest => "BadRequest"
  | fallbackSuccess => "FallbackSuccess"
  | fallbackFailure => "FallbackFailure"
  | fallbackRejection => "FallbackRejection"
  | fallbackMissing => "FallbackMissing"
  | cancelled => "Cancelled"

/-- The tag of a reported name. -/
def ofName? (text : String) : Option Tag :=
  all.find? (fun tag => tag.name == text)

/-- Tags that count as a request in the health figure. -/
def countsTowardHealth : Tag → Bool
  | success | failure | timeout | threadPoolRejected | semaphoreRejected => true
  | _ => false

/-- Tags that count as an error in the health figure. -/
def isHealthError : Tag → Bool
  | failure | timeout | threadPoolRejected | semaphoreRejected => true
  | _ => false

/-- Tags that can only arise once the work has started. -/
def impliesExecution : Tag → Bool
  | success | failure | badRequest => true
  | _ => false

end Tag

end Breakwater
