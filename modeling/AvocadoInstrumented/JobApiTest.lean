import AvocadoInstrumented.Check

namespace AvocadoInstrumented
namespace Check

-- `JobAPIFeaturesTest` (lines 46-226): each test runs one avocado job configured from its variant,
-- then asserts on the job's exit code and on what the job left in its results.

end Check
end AvocadoInstrumented
