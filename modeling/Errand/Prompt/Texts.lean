import Errand.Prompt.Catalog
import Errand.Prompt.Template

/-!
# What the model is told

The texts with which the agent addresses a language model: to have a plan written, to have an answer
made of a result, and to have replies suggested. They are templates, and `planner`, `solver` and
`smartReply` fill them.
-/

set_option autoImplicit false

namespace Errand.Prompt

/-- Lines of a text. -/
def lines (parts : List String) : String :=
  String.intercalate "\n" parts

/-- How a plan is asked for. -/
def plannerTemplate : String := lines [
  "You are a meticulous planning assistant that creates precise step-by-step plans to " ++
    "solve tasks using available tools. You must follow these rules exactly:",
  "1. IMPORTANT: Each variable reference (#E1, #E2, etc.) MUST contain the EXACT " ++
    "result from the specific step where it was created",
  "2. CRITICAL: The SendMessage tool requires: senderId, content, conversationId, and " ++
    "should NOT use conversationId as receiverId",
  "3. All tool inputs MUST use proper JSON format with keys matching the required " ++
    "parameters",
  "4. Each plan must describe ONE specific action followed by ONE tool call with its " ++
    "corresponding #E variable",
  "5. When referencing user IDs from search results, you MUST use the exact variable " ++
    "(e.g., #E1) without quotes",
  "6. Use the LLM tool with a plain text prompt only when no other tool fits",
  "You are working with user ID: \x7bactor_id\x7d",
  "Available tools:",
  "\x7boperations\x7d",
  "",
  "CORRECT EXAMPLES FOR REFERENCE:",
  "Example 1: Send a message to John saying hello",
  "Plan 1: Find John's user ID using name search.",
  "#E1 = SearchUserByName[\x7b\"name\": \"John\"\x7d]",
  "Plan 2: Find or create a conversation between current user and John.",
  "#E2 = FindConversationIdByParticipants[\x7b\"participants\": [\"\x7bactor_id\x7d\", " ++
    "#E1]\x7d]",
  "Plan 3: Send the message in the identified conversation.",
  "#E3 = SendMessage[\x7b\"senderId\": \"\x7bactor_id\x7d\", \"receiverId\": #E1, " ++
    "\"content\": \"Hello\", \"conversationId\": #E2\x7d]",
  "",
  "Example 2: What were my last 5 messages?",
  "Plan 1: Retrieve the last 5 messages sent by the user.",
  "#E1 = GetLastSentMessages[\x7b\"senderId\": \"\x7bactor_id\x7d\", \"limit\": 5\x7d]",
  "",
  "Example 3: Get statistics for my conversation with Mike",
  "Plan 1: Find Mike's user ID",
  "#E1 = SearchUserByName[\x7b\"name\": \"Mike\"\x7d]",
  "Plan 2: Find our conversation ID",
  "#E2 = FindConversationIdByParticipants[\x7b\"participants\": [\"\x7bactor_id\x7d\", " ++
    "#E1]\x7d]",
  "Plan 3: Get conversation statistics",
  "#E3 = GetConversationStatistics[\x7b\"conversationId\": #E2\x7d]",
  "",
  "COMMON MISTAKES TO AVOID:",
  "- DO NOT use #E2 as both conversationId and receiverId",
  "- DO NOT omit required parameters for any tool",
  "- DO NOT use plan numbers that don't match the sequence (#E2 must come after #E1)",
  "Begin! Create your step-by-step plan with precise tool calls and variable " ++
    "references.",
  "Task: \x7btask\x7d"]

/-- How an answer is asked for. -/
def solverTemplate : String := lines [
  "Your task is to process raw JSON data and generate human-readable, GitHub-flavored " ++
    "Markdown responses. Your responses must be structured, clear, and formatted " ++
    "appropriately based on the type of data provided.",
  "",
  "Formatting Guidelines:",
  "Use headings (##, ###) to organize information when necessary.",
  "Use bold (**text**) and italic (*text*) for emphasis when appropriate.",
  "Use tables when presenting structured data such as statistics or comparisons.",
  "Use lists (-, *, or 1.) when displaying multiple related items such as messages.",
  "Format timestamps as normal text while emphasizing key content (e.g., message text " ++
    "in bold).",
  "",
  "Response Formatting Logic:",
  "If the data is an array of messages, return a bulleted list with bold content and " ++
    "timestamps in normal text.",
  "Example:",
  "* **Hello, what's up?** - Mar 4, 5:59 AM",
  "",
  "If the task involves sending a message, return a confirmation with ✅ and the " ++
    "content.",
  "Example:",
  "✅ **Hello, Dhruv!** message sent to Dhruv.",
  "",
  "If the data contains numeric statistics, format it as a table.",
  "Example:",
  "| Metric            | Count |",
  "|-------------------|-------|",
  "| Sent Messages     | 10    |",
  "| Received Messages | 8     |",
  "",
  "If the data contains key-value pairs that do not fit a table, use bold for keys and " ++
    "normal text for values.",
  "Example:",
  "**Status:** Active",
  "",
  "Current Query Context: \x7btask\x7d",
  "Database Response: \x7bagent_response\x7d",
  "OUTPUT: Strictly formatted markdown using ONLY provided data",
  ""]

/-- How replies are asked for. -/
def smartReplyTemplate : String := lines [
  "# Conversation Reply Generator",
  "You are given a list of messages from a conversation. Understand its context and " ++
    "write 3 possible replies to the last message in the style and language of the " ++
    "receiver.",
  "",
  "## Format Requirements:",
  "- Only output a JSON object with a single key \"replies\" holding an array of 3 " ++
    "reply strings",
  "- No extra text before or after the JSON",
  "- No explanations and no user labels",
  "- Respect the language of the conversation (English, Hindi, Gujarati, Hinglish, " ++
    "etc.)",
  "- Match the tone of the conversation, including formal or informal forms of address",
  "- Always respond in the exact language of the last message",
  "",
  "## Example:",
  "Conversation:",
  "[",
  "  \x7b\"sender\": \"user1\", \"message\": \"Kal movie dekhne chalein?\"\x7d,",
  "  \x7b\"sender\": \"user2\", \"message\": \"Haan, but mujhe thoda late ho jayega " ++
    "office se.\"\x7d,",
  "  \x7b\"sender\": \"user1\", \"message\": \"Koi baat nahi. Kitne baje tak pahunch " ++
    "paoge?\"\x7d",
  "]",
  "Output:",
  "\x7b\"replies\": [\"Shayad 7:30 tak.\", \"8 baje tak pakka pahunch jaunga.\", " ++
    "\"Office se 6:30 niklunga, chalega?\"]\x7d",
  "",
  "## Conversation:",
  "\x7bconversation\x7d",
  ""]

/-- The prompt for a plan. -/
def planner (actor : String) (operations : List Operation.Info) (task : String) : String :=
  fill plannerTemplate
    [("operations", catalog operations), ("actor_id", actor), ("task", task)]

/-- The prompt for an answer; a missing result is shown as null. -/
def solver (task : String) (result : Option String) : String :=
  fill solverTemplate [("task", task), ("agent_response", result.getD "null")]

/-- The prompt for replies to a conversation, which is given as JSON. -/
def smartReply (conversation : String) : String :=
  fill smartReplyTemplate [("conversation", conversation)]

end Errand.Prompt
