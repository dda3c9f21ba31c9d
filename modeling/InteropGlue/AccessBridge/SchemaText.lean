/-!
# The Access Bridge schema

The description of the Java Access Bridge as a schema document.

## Main Definitions

* `AccessBridge.schemaLines` — the lines of the document.
* `AccessBridge.schemaText` — the document.
-/

namespace InteropGlue.AccessBridge

/-- The lines of the schema document of the Access Bridge. -/
def schemaLines : List String :=
  ["# Java Access Bridge ABI, as exported by WindowsAccessBridge-64.dll and the",
   "# legacy 32-bit WindowsAccessBridge.dll.",
   "#",
   "# Regenerate with: cargo run -p jab-interop-gen -- <output.cs>",
   "",
   "[output]",
   "namespace = \"AccessBridgeExplorer.WindowsAccessBridge\"",
   "library = \"AccessBridge\"",
   "file = \"AccessBridgeGenerated.cs\"",
   "license = \"\"\"",
   "Copyright 2016 Google Inc. All Rights Reserved.",
   "",
   "Licensed under the Apache License, Version 2.0 (the \"License\");",
   "you may not use this file except in compliance with the License.",
   "You may obtain a copy of the License at",
   "",
   "    http://www.apache.org/licenses/LICENSE-2.0",
   "",
   "Unless required by applicable law or agreed to in writing, software",
   "distributed under the License is distributed on an \"AS IS\" BASIS,",
   "WITHOUT WARRANTIES OR CONDITIONS OF ANY KIND, either express or implied.",
   "See the License for the specific language governing permissions and",
   "limitations under the License.",
   "\"\"\"",
   "usings = [\"System\", \"System.Runtime.InteropServices\", \"System.Text\"]",
   "targets = [\"modern\", \"legacy\"]",
   "",
   "[[alias]]",
   "name = \"WindowHandle\"",
   "target = \"System.IntPtr\"",
   "",
   "# ---------------------------------------------------------------------------",
   "# Enums",
   "# ---------------------------------------------------------------------------",
   "",
   "[[enum]]",
   "name = \"AccessibleInterfaces\"",
   "flags = true",
   "members = [",
   "  \x7b name = \"cAccessibleValueInterface\", value = \"1\" \x7d,",
   "  \x7b name = \"cAccessibleActionInterface\", value = \"2\" \x7d,",
   "  \x7b name = \"cAccessibleComponentInterface\", value = \"4\" \x7d,",
   "  \x7b name = \"cAccessibleSelectionInterface\", value = \"8\" \x7d,",
   "  \x7b name = \"cAccessibleTableInterface\", value = \"16\" \x7d,",
   "  \x7b name = \"cAccessibleTextInterface\", value = \"32\" \x7d,",
   "  \x7b name = \"cAccessibleHypertextInterface\", value = \"64\" \x7d,",
   "]",
   "",
   "[[enum]]",
   "name = \"AccessibleKeyCode\"",
   "underlying = \"ushort\"",
   "members = [",
   "  \x7b name = \"ACCESSIBLE_VK_BACK_SPACE\", value = \"8\" \x7d,",
   "  \x7b name = \"ACCESSIBLE_VK_DELETE\", value = \"127\" \x7d,",
   "  \x7b name = \"ACCESSIBLE_VK_DOWN\", value = \"40\" \x7d,",
   "  \x7b name = \"ACCESSIBLE_VK_END\", value = \"35\" \x7d,",
   "  \x7b name = \"ACCESSIBLE_VK_HOME\", value = \"36\" \x7d,",
   "  \x7b name = \"ACCESSIBLE_VK_INSERT\", value = \"155\" \x7d,",
   "  \x7b name = \"ACCESSIBLE_VK_KP_DOWN\", value = \"225\" \x7d,",
   "  \x7b name = \"ACCESSIBLE_VK_KP_LEFT\", value = \"226\" \x7d,",
   "  \x7b name = \"ACCESSIBLE_VK_KP_RIGHT\", value = \"227\" \x7d,",
   "  \x7b name = \"ACCESSIBLE_VK_KP_UP\", value = \"224\" \x7d,",
   "  \x7b name = \"ACCESSIBLE_VK_LEFT\", value = \"37\" \x7d,",
   "  \x7b name = \"ACCESSIBLE_VK_PAGE_DOWN\", value = \"34\" \x7d,",
   "  \x7b name = \"ACCESSIBLE_VK_PAGE_UP\", value = \"33\" \x7d,",
   "  \x7b name = \"ACCESSIBLE_VK_RIGHT\", value = \"39\" \x7d,",
   "  \x7b name = \"ACCESSIBLE_VK_UP\", value = \"38\" \x7d,",
   "]",
   "",
   "[[enum]]",
   "name = \"AccessibleModifiers\"",
   "underlying = \"uint\"",
   "flags = true",
   "members = [",
   "  \x7b name = \"ACCESSIBLE_SHIFT_KEYSTROKE\", value = \"1\" \x7d,",
   "  \x7b name = \"ACCESSIBLE_CONTROL_KEYSTROKE\", value = \"2\" \x7d,",
   "  \x7b name = \"ACCESSIBLE_META_KEYSTROKE\", value = \"4\" \x7d,",
   "  \x7b name = \"ACCESSIBLE_ALT_KEYSTROKE\", value = \"8\" \x7d,",
   "  \x7b name = \"ACCESSIBLE_ALT_GRAPH_KEYSTROKE\", value = \"16\" \x7d,",
   "  \x7b name = \"ACCESSIBLE_BUTTON1_KEYSTROKE\", value = \"32\" \x7d,",
   "  \x7b name = \"ACCESSIBLE_BUTTON2_KEYSTROKE\", value = \"64\" \x7d,",
   "  \x7b name = \"ACCESSIBLE_BUTTON3_KEYSTROKE\", value = \"128\" \x7d,",
   "  \x7b name = \"ACCESSIBLE_FKEY_KEYSTROKE\", value = \"256\" \x7d,",
   "  \x7b name = \"ACCESSIBLE_CONTROLCODE_KEYSTROKE\", value = \"512\" \x7d,",
   "]",
   "",
   "# ---------------------------------------------------------------------------",
   "# Structs",
   "# ---------------------------------------------------------------------------",
   "",
   "[[struct]]",
   "name = \"AccessBridgeVersionInfo\"",
   "fields = [",
   "  \x7b name = \"VMversion\", type = \"string\", marshal = \x7b kind = \"ByValTStr\", " ++
     "size_const = 256 \x7d \x7d,",
   "  \x7b name = \"bridgeJavaClassVersion\", type = \"string\", marshal = \x7b kind = " ++
     "\"ByValTStr\", size_const = 256 \x7d \x7d,",
   "  \x7b name = \"bridgeJavaDLLVersion\", type = \"string\", marshal = \x7b kind = " ++
     "\"ByValTStr\", size_const = 256 \x7d \x7d,",
   "  \x7b name = \"bridgeWinDLLVersion\", type = \"string\", marshal = \x7b kind = " ++
     "\"ByValTStr\", size_const = 256 \x7d \x7d,",
   "]",
   "",
   "[[struct]]",
   "name = \"AccessibleContextInfo\"",
   "fields = [",
   "  \x7b name = \"name\", type = \"string\", marshal = \x7b kind = \"ByValTStr\", " ++
     "size_const = 1024 \x7d \x7d,",
   "  \x7b name = \"description\", type = \"string\", marshal = \x7b kind = " ++
     "\"ByValTStr\", size_const = 1024 \x7d \x7d,",
   "  \x7b name = \"role\", type = \"string\", marshal = \x7b kind = \"ByValTStr\", " ++
     "size_const = 256 \x7d \x7d,",
   "  \x7b name = \"role_en_US\", type = \"string\", marshal = \x7b kind = \"ByValTStr\", " ++
     "size_const = 256 \x7d \x7d,",
   "  \x7b name = \"states\", type = \"string\", marshal = \x7b kind = \"ByValTStr\", " ++
     "size_const = 256 \x7d \x7d,",
   "  \x7b name = \"states_en_US\", type = \"string\", marshal = \x7b kind = " ++
     "\"ByValTStr\", size_const = 256 \x7d \x7d,",
   "  \x7b name = \"indexInParent\", type = \"int\" \x7d,",
   "  \x7b name = \"childrenCount\", type = \"int\" \x7d,",
   "  \x7b name = \"x\", type = \"int\" \x7d,",
   "  \x7b name = \"y\", type = \"int\" \x7d,",
   "  \x7b name = \"width\", type = \"int\" \x7d,",
   "  \x7b name = \"height\", type = \"int\" \x7d,",
   "  \x7b name = \"accessibleComponent\", type = \"bool\" \x7d,",
   "  \x7b name = \"accessibleAction\", type = \"bool\" \x7d,",
   "  \x7b name = \"accessibleSelection\", type = \"bool\" \x7d,",
   "  \x7b name = \"accessibleText\", type = \"bool\" \x7d,",
   "  \x7b name = \"accessibleInterfaces\", type = \"AccessibleInterfaces\" \x7d,",
   "]",
   "",
   "[[struct]]",
   "name = \"AccessibleTextInfo\"",
   "fields = [",
   "  \x7b name = \"charCount\", type = \"int\" \x7d,",
   "  \x7b name = \"caretIndex\", type = \"int\" \x7d,",
   "  \x7b name = \"indexAtPoint\", type = \"int\" \x7d,",
   "]",
   "",
   "[[struct]]",
   "name = \"AccessibleTextSelectionInfo\"",
   "fields = [",
   "  \x7b name = \"selectionStartIndex\", type = \"int\" \x7d,",
   "  \x7b name = \"selectionEndIndex\", type = \"int\" \x7d,",
   "  \x7b name = \"selectedText\", type = \"string\", marshal = \x7b kind = " ++
     "\"ByValTStr\", size_const = 1024 \x7d \x7d,",
   "]",
   "",
   "[[struct]]",
   "name = \"AccessibleTextRectInfo\"",
   "fields = [",
   "  \x7b name = \"x\", type = \"int\" \x7d,",
   "  \x7b name = \"y\", type = \"int\" \x7d,",
   "  \x7b name = \"width\", type = \"int\" \x7d,",
   "  \x7b name = \"height\", type = \"int\" \x7d,",
   "]",
   "",
   "[[struct]]",
   "name = \"AccessibleActionInfo\"",
   "fields = [",
   "  \x7b name = \"name\", type = \"string\", marshal = \x7b kind = \"ByValTStr\", " ++
     "size_const = 256 \x7d \x7d,",
   "]",
   "",
   "[[struct]]",
   "name = \"AccessibleActionsToDo\"",
   "fields = [",
   "  \x7b name = \"actionsCount\", type = \"int\" \x7d,",
   "  \x7b name = \"actions\", type = \"AccessibleActionInfo[]\", count = " ++
     "\"actionsCount\", marshal = \x7b kind = \"ByValArray\", size_const = 32 \x7d \x7d,",
   "]",
   "",
   "[[struct]]",
   "name = \"AccessibleRelationInfo\"",
   "fields = [",
   "  \x7b name = \"key\", type = \"string\", marshal = \x7b kind = \"ByValTStr\", " ++
     "size_const = 256 \x7d \x7d,",
   "  \x7b name = \"targetCount\", type = \"int\" \x7d,",
   "  \x7b name = \"targets\", type = \"JavaObjectHandle[]\", count = \"targetCount\", " ++
     "marshal = \x7b kind = \"ByValArray\", size_const = 25 \x7d \x7d,",
   "]",
   "",
   "[[struct]]",
   "name = \"AccessibleKeyBindingInfo\"",
   "fields = [",
   "  \x7b name = \"character\", type = \"AccessibleKeyCode\" \x7d,",
   "  \x7b name = \"modifiers\", type = \"AccessibleModifiers\" \x7d,",
   "]",
   "",
   "[[struct]]",
   "name = \"AccessibleKeyBindings\"",
   "fields = [",
   "  \x7b name = \"keyBindingsCount\", type = \"int\" \x7d,",
   "  \x7b name = \"keyBindingInfo\", type = \"AccessibleKeyBindingInfo[]\", count = " ++
     "\"keyBindingsCount\", marshal = \x7b kind = \"ByValArray\", size_const = 10 \x7d \x7d,",
   "]",
   "",
   "[[struct]]",
   "name = \"AccessibleIconInfo\"",
   "fields = [",
   "  \x7b name = \"description\", type = \"string\", marshal = \x7b kind = " ++
     "\"ByValTStr\", size_const = 256 \x7d \x7d,",
   "  \x7b name = \"height\", type = \"int\" \x7d,",
   "  \x7b name = \"width\", type = \"int\" \x7d,",
   "]",
   "",
   "[[struct]]",
   "name = \"AccessibleIcons\"",
   "fields = [",
   "  \x7b name = \"iconsCount\", type = \"int\" \x7d,",
   "  \x7b name = \"iconInfo\", type = \"AccessibleIconInfo[]\", count = \"iconsCount\", " ++
     "marshal = \x7b kind = \"ByValArray\", size_const = 8 \x7d \x7d,",
   "]",
   "",
   "[[struct]]",
   "name = \"AccessibleHyperlinkInfo\"",
   "fields = [",
   "  \x7b name = \"text\", type = \"string\", marshal = \x7b kind = \"ByValTStr\", " ++
     "size_const = 256 \x7d \x7d,",
   "  \x7b name = \"startIndex\", type = \"int\" \x7d,",
   "  \x7b name = \"endIndex\", type = \"int\" \x7d,",
   "  \x7b name = \"accessibleHyperlink\", type = \"JavaObjectHandle\" \x7d,",
   "]",
   "",
   "[[struct]]",
   "name = \"VisibleChildrenInfo\"",
   "fields = [",
   "  \x7b name = \"returnedChildrenCount\", type = \"int\" \x7d,",
   "  \x7b name = \"children\", type = \"JavaObjectHandle[]\", count = " ++
     "\"returnedChildrenCount\", marshal = \x7b kind = \"ByValArray\", size_const = 256 " ++
     "\x7d \x7d,",
   "]",
   "",
   "# ---------------------------------------------------------------------------",
   "# Classes (filled in place through caller-allocated buffers)",
   "# ---------------------------------------------------------------------------",
   "",
   "[[class]]",
   "name = \"AccessibleTextItemsInfo\"",
   "fields = [",
   "  \x7b name = \"letter\", type = \"char\" \x7d,",
   "  \x7b name = \"word\", type = \"string\", marshal = \x7b kind = \"ByValTStr\", " ++
     "size_const = 256 \x7d \x7d,",
   "  \x7b name = \"sentence\", type = \"string\", marshal = \x7b kind = \"ByValTStr\", " ++
     "size_const = 1024 \x7d \x7d,",
   "]",
   "",
   "[[class]]",
   "name = \"AccessibleTextAttributesInfo\"",
   "fields = [",
   "  \x7b name = \"bold\", type = \"bool\" \x7d,",
   "  \x7b name = \"italic\", type = \"bool\" \x7d,",
   "  \x7b name = \"underline\", type = \"bool\" \x7d,",
   "  \x7b name = \"strikethrough\", type = \"bool\" \x7d,",
   "  \x7b name = \"superscript\", type = \"bool\" \x7d,",
   "  \x7b name = \"subscript\", type = \"bool\" \x7d,",
   "  \x7b name = \"backgroundColor\", type = \"string\", marshal = \x7b kind = " ++
     "\"ByValTStr\", size_const = 256 \x7d \x7d,",
   "  \x7b name = \"foregroundColor\", type = \"string\", marshal = \x7b kind = " ++
     "\"ByValTStr\", size_const = 256 \x7d \x7d,",
   "  \x7b name = \"fontFamily\", type = \"string\", marshal = \x7b kind = \"ByValTStr\", " ++
     "size_const = 256 \x7d \x7d,",
   "  \x7b name = \"fontSize\", type = \"int\" \x7d,",
   "  \x7b name = \"alignment\", type = \"int\" \x7d,",
   "  \x7b name = \"bidiLevel\", type = \"int\" \x7d,",
   "  \x7b name = \"firstLineIndent\", type = \"float\" \x7d,",
   "  \x7b name = \"leftIndent\", type = \"float\" \x7d,",
   "  \x7b name = \"rightIndent\", type = \"float\" \x7d,",
   "  \x7b name = \"lineSpacing\", type = \"float\" \x7d,",
   "  \x7b name = \"spaceAbove\", type = \"float\" \x7d,",
   "  \x7b name = \"spaceBelow\", type = \"float\" \x7d,",
   "  \x7b name = \"fullAttributesString\", type = \"string\", marshal = \x7b kind = " ++
     "\"ByValTStr\", size_const = 1024 \x7d \x7d,",
   "]",
   "",
   "[[class]]",
   "name = \"AccessibleActions\"",
   "fields = [",
   "  \x7b name = \"actionsCount\", type = \"int\" \x7d,",
   "  \x7b name = \"actionInfo\", type = \"AccessibleActionInfo[]\", count = " ++
     "\"actionsCount\", marshal = \x7b kind = \"ByValArray\", size_const = 256 \x7d \x7d,",
   "]",
   "",
   "[[class]]",
   "name = \"AccessibleRelationSetInfo\"",
   "fields = [",
   "  \x7b name = \"relationCount\", type = \"int\" \x7d,",
   "  \x7b name = \"relations\", type = \"AccessibleRelationInfo[]\", count = " ++
     "\"relationCount\", marshal = \x7b kind = \"ByValArray\", size_const = 5 \x7d \x7d,",
   "]",
   "",
   "[[class]]",
   "name = \"AccessibleHypertextInfo\"",
   "fields = [",
   "  \x7b name = \"linkCount\", type = \"int\" \x7d,",
   "  \x7b name = \"links\", type = \"AccessibleHyperlinkInfo[]\", count = \"linkCount\", " ++
     "marshal = \x7b kind = \"ByValArray\", size_const = 64 \x7d \x7d,",
   "  \x7b name = \"accessibleHypertext\", type = \"JavaObjectHandle\" \x7d,",
   "]",
   "",
   "# ---------------------------------------------------------------------------",
   "# Functions",
   "# ---------------------------------------------------------------------------",
   "",
   "[[function]]",
   "name = \"Windows_run\"",
   "",
   "[[function]]",
   "name = \"isJavaWindow\"",
   "returns = \"bool\"",
   "params = [\x7b name = \"window\", type = \"WindowHandle\" \x7d]",
   "",
   "[[function]]",
   "name = \"GetAccessibleContextFromHWND\"",
   "returns = \"bool\"",
   "params = [",
   "  \x7b name = \"window\", type = \"WindowHandle\" \x7d,",
   "  \x7b name = \"vmid\", type = \"int\", direction = \"out\" \x7d,",
   "  \x7b name = \"ac\", type = \"JavaObjectHandle\", direction = \"out\" \x7d,",
   "]",
   "",
   "[[function]]",
   "name = \"getHWNDFromAccessibleContext\"",
   "returns = \"WindowHandle\"",
   "params = [",
   "  \x7b name = \"vmid\", type = \"int\" \x7d,",
   "  \x7b name = \"ac\", type = \"JavaObjectHandle\" \x7d,",
   "]",
   "",
   "[[function]]",
   "name = \"isSameObject\"",
   "returns = \"bool\"",
   "params = [",
   "  \x7b name = \"vmid\", type = \"int\" \x7d,",
   "  \x7b name = \"obj1\", type = \"JavaObjectHandle\" \x7d,",
   "  \x7b name = \"obj2\", type = \"JavaObjectHandle\" \x7d,",
   "]",
   "",
   "[[function]]",
   "name = \"releaseJavaObject\"",
   "params = [",
   "  \x7b name = \"vmid\", type = \"int\" \x7d,",
   "  \x7b name = \"javaObject\", type = \"JavaObjectHandle\" \x7d,",
   "]",
   "",
   "[[function]]",
   "name = \"getVersionInfo\"",
   "returns = \"bool\"",
   "params = [",
   "  \x7b name = \"vmid\", type = \"int\" \x7d,",
   "  \x7b name = \"info\", type = \"AccessBridgeVersionInfo\", direction = \"out\" \x7d,",
   "]",
   "",
   "[[function]]",
   "name = \"GetAccessibleContextAt\"",
   "returns = \"bool\"",
   "params = [",
   "  \x7b name = \"vmid\", type = \"int\" \x7d,",
   "  \x7b name = \"acParent\", type = \"JavaObjectHandle\" \x7d,",
   "  \x7b name = \"x\", type = \"int\" \x7d,",
   "  \x7b name = \"y\", type = \"int\" \x7d,",
   "  \x7b name = \"ac\", type = \"JavaObjectHandle\", direction = \"out\" \x7d,",
   "]",
   "",
   "[[function]]",
   "name = \"GetAccessibleContextWithFocus\"",
   "returns = \"bool\"",
   "params = [",
   "  \x7b name = \"window\", type = \"WindowHandle\" \x7d,",
   "  \x7b name = \"vmid\", type = \"int\", direction = \"out\" \x7d,",
   "  \x7b name = \"ac\", type = \"JavaObjectHandle\", direction = \"out\" \x7d,",
   "]",
   "",
   "[[function]]",
   "name = \"GetAccessibleContextInfo\"",
   "returns = \"bool\"",
   "params = [",
   "  \x7b name = \"vmid\", type = \"int\" \x7d,",
   "  \x7b name = \"ac\", type = \"JavaObjectHandle\" \x7d,",
   "  \x7b name = \"info\", type = \"AccessibleContextInfo\", direction = \"out\" \x7d,",
   "]",
   "",
   "[[function]]",
   "name = \"GetAccessibleChildFromContext\"",
   "returns = \"JavaObjectHandle\"",
   "params = [",
   "  \x7b name = \"vmid\", type = \"int\" \x7d,",
   "  \x7b name = \"ac\", type = \"JavaObjectHandle\" \x7d,",
   "  \x7b name = \"i\", type = \"int\" \x7d,",
   "]",
   "",
   "[[function]]",
   "name = \"GetAccessibleParentFromContext\"",
   "returns = \"JavaObjectHandle\"",
   "params = [",
   "  \x7b name = \"vmid\", type = \"int\" \x7d,",
   "  \x7b name = \"ac\", type = \"JavaObjectHandle\" \x7d,",
   "]",
   "",
   "[[function]]",
   "name = \"getAccessibleRelationSet\"",
   "returns = \"bool\"",
   "params = [",
   "  \x7b name = \"vmid\", type = \"int\" \x7d,",
   "  \x7b name = \"accessibleContext\", type = \"JavaObjectHandle\" \x7d,",
   "  \x7b name = \"relationSetInfo\", type = \"AccessibleRelationSetInfo\", direction = " ++
     "\"out_attr\" \x7d,",
   "]",
   "",
   "[[function]]",
   "name = \"getAccessibleHypertext\"",
   "returns = \"bool\"",
   "params = [",
   "  \x7b name = \"vmid\", type = \"int\" \x7d,",
   "  \x7b name = \"accessibleContext\", type = \"JavaObjectHandle\" \x7d,",
   "  \x7b name = \"hypertextInfo\", type = \"AccessibleHypertextInfo\", direction = " ++
     "\"out_attr\" \x7d,",
   "]",
   "",
   "[[function]]",
   "name = \"activateAccessibleHyperlink\"",
   "returns = \"bool\"",
   "params = [",
   "  \x7b name = \"vmid\", type = \"int\" \x7d,",
   "  \x7b name = \"accessibleContext\", type = \"JavaObjectHandle\" \x7d,",
   "  \x7b name = \"accessibleHyperlink\", type = \"JavaObjectHandle\" \x7d,",
   "]",
   "",
   "[[function]]",
   "name = \"getAccessibleKeyBindings\"",
   "returns = \"bool\"",
   "params = [",
   "  \x7b name = \"vmid\", type = \"int\" \x7d,",
   "  \x7b name = \"accessibleContext\", type = \"JavaObjectHandle\" \x7d,",
   "  \x7b name = \"keyBindings\", type = \"AccessibleKeyBindings\", direction = \"out\" \x7d,",
   "]",
   "",
   "[[function]]",
   "name = \"getAccessibleIcons\"",
   "returns = \"bool\"",
   "params = [",
   "  \x7b name = \"vmid\", type = \"int\" \x7d,",
   "  \x7b name = \"accessibleContext\", type = \"JavaObjectHandle\" \x7d,",
   "  \x7b name = \"icons\", type = \"AccessibleIcons\", direction = \"out\" \x7d,",
   "]",
   "",
   "[[function]]",
   "name = \"getAccessibleActions\"",
   "returns = \"bool\"",
   "params = [",
   "  \x7b name = \"vmid\", type = \"int\" \x7d,",
   "  \x7b name = \"accessibleContext\", type = \"JavaObjectHandle\" \x7d,",
   "  \x7b name = \"actions\", type = \"AccessibleActions\", direction = \"out_attr\" \x7d,",
   "]",
   "",
   "[[function]]",
   "name = \"doAccessibleActions\"",
   "returns = \"bool\"",
   "params = [",
   "  \x7b name = \"vmid\", type = \"int\" \x7d,",
   "  \x7b name = \"accessibleContext\", type = \"JavaObjectHandle\" \x7d,",
   "  \x7b name = \"actionsToDo\", type = \"AccessibleActionsToDo&\" \x7d,",
   "  \x7b name = \"failure\", type = \"int\", direction = \"out\" \x7d,",
   "]",
   "",
   "[[function]]",
   "name = \"GetAccessibleTextInfo\"",
   "returns = \"bool\"",
   "params = [",
   "  \x7b name = \"vmid\", type = \"int\" \x7d,",
   "  \x7b name = \"at\", type = \"JavaObjectHandle\" \x7d,",
   "  \x7b name = \"textInfo\", type = \"AccessibleTextInfo\", direction = \"out\" \x7d,",
   "  \x7b name = \"x\", type = \"int\" \x7d,",
   "  \x7b name = \"y\", type = \"int\" \x7d,",
   "]",
   "",
   "[[function]]",
   "name = \"GetAccessibleTextItems\"",
   "returns = \"bool\"",
   "params = [",
   "  \x7b name = \"vmid\", type = \"int\" \x7d,",
   "  \x7b name = \"at\", type = \"JavaObjectHandle\" \x7d,",
   "  \x7b name = \"textItems\", type = \"AccessibleTextItemsInfo\", direction = " ++
     "\"out_attr\" \x7d,",
   "  \x7b name = \"index\", type = \"int\" \x7d,",
   "]",
   "",
   "[[function]]",
   "name = \"GetAccessibleTextSelectionInfo\"",
   "returns = \"bool\"",
   "params = [",
   "  \x7b name = \"vmid\", type = \"int\" \x7d,",
   "  \x7b name = \"at\", type = \"JavaObjectHandle\" \x7d,",
   "  \x7b name = \"textSelection\", type = \"AccessibleTextSelectionInfo\", direction = " ++
     "\"out\" \x7d,",
   "]",
   "",
   "[[function]]",
   "name = \"GetAccessibleTextAttributes\"",
   "returns = \"bool\"",
   "params = [",
   "  \x7b name = \"vmid\", type = \"int\" \x7d,",
   "  \x7b name = \"at\", type = \"JavaObjectHandle\" \x7d,",
   "  \x7b name = \"index\", type = \"int\" \x7d,",
   "  \x7b name = \"attributes\", type = \"AccessibleTextAttributesInfo\", direction = " ++
     "\"out_attr\" \x7d,",
   "]",
   "",
   "[[function]]",
   "name = \"GetAccessibleTextRect\"",
   "returns = \"bool\"",
   "params = [",
   "  \x7b name = \"vmid\", type = \"int\" \x7d,",
   "  \x7b name = \"at\", type = \"JavaObjectHandle\" \x7d,",
   "  \x7b name = \"rectInfo\", type = \"AccessibleTextRectInfo\", direction = \"out\" \x7d,",
   "  \x7b name = \"index\", type = \"int\" \x7d,",
   "]",
   "",
   "[[function]]",
   "name = \"GetAccessibleTextRange\"",
   "returns = \"bool\"",
   "params = [",
   "  \x7b name = \"vmid\", type = \"int\" \x7d,",
   "  \x7b name = \"at\", type = \"JavaObjectHandle\" \x7d,",
   "  \x7b name = \"start\", type = \"int\" \x7d,",
   "  \x7b name = \"end\", type = \"int\" \x7d,",
   "  \x7b name = \"text\", type = \"StringBuilder\", direction = \"out_attr\", marshal = " ++
     "\x7b kind = \"LPWStr\" \x7d \x7d,",
   "  \x7b name = \"len\", type = \"short\" \x7d,",
   "]",
   "",
   "[[function]]",
   "name = \"getVirtualAccessibleName\"",
   "returns = \"bool\"",
   "params = [",
   "  \x7b name = \"vmid\", type = \"int\" \x7d,",
   "  \x7b name = \"accessibleContext\", type = \"JavaObjectHandle\" \x7d,",
   "  \x7b name = \"name\", type = \"StringBuilder\", direction = \"out_attr\", marshal = " ++
     "\x7b kind = \"LPWStr\" \x7d \x7d,",
   "  \x7b name = \"len\", type = \"int\" \x7d,",
   "]",
   "",
   "[[function]]",
   "name = \"setTextContents\"",
   "returns = \"bool\"",
   "params = [",
   "  \x7b name = \"vmid\", type = \"int\" \x7d,",
   "  \x7b name = \"accessibleContext\", type = \"JavaObjectHandle\" \x7d,",
   "  \x7b name = \"text\", type = \"string\", marshal = \x7b kind = \"LPWStr\" \x7d \x7d,",
   "]",
   "",
   "[[function]]",
   "name = \"getVisibleChildrenCount\"",
   "returns = \"int\"",
   "params = [",
   "  \x7b name = \"vmid\", type = \"int\" \x7d,",
   "  \x7b name = \"accessibleContext\", type = \"JavaObjectHandle\" \x7d,",
   "]",
   "",
   "[[function]]",
   "name = \"getVisibleChildren\"",
   "returns = \"bool\"",
   "params = [",
   "  \x7b name = \"vmid\", type = \"int\" \x7d,",
   "  \x7b name = \"accessibleContext\", type = \"JavaObjectHandle\" \x7d,",
   "  \x7b name = \"startIndex\", type = \"int\" \x7d,",
   "  \x7b name = \"children\", type = \"VisibleChildrenInfo\", direction = \"out\" \x7d,",
   "]",
   "",
   "[[function]]",
   "name = \"getTopLevelObject\"",
   "returns = \"JavaObjectHandle\"",
   "params = [",
   "  \x7b name = \"vmid\", type = \"int\" \x7d,",
   "  \x7b name = \"accessibleContext\", type = \"JavaObjectHandle\" \x7d,",
   "]",
   "",
   "[[function]]",
   "name = \"getObjectDepth\"",
   "returns = \"int\"",
   "params = [",
   "  \x7b name = \"vmid\", type = \"int\" \x7d,",
   "  \x7b name = \"accessibleContext\", type = \"JavaObjectHandle\" \x7d,",
   "]",
   "",
   "[[function]]",
   "name = \"getActiveDescendent\"",
   "returns = \"JavaObjectHandle\"",
   "params = [",
   "  \x7b name = \"vmid\", type = \"int\" \x7d,",
   "  \x7b name = \"accessibleContext\", type = \"JavaObjectHandle\" \x7d,",
   "]",
   "",
   "[[function]]",
   "name = \"requestFocus\"",
   "returns = \"bool\"",
   "params = [",
   "  \x7b name = \"vmid\", type = \"int\" \x7d,",
   "  \x7b name = \"accessibleContext\", type = \"JavaObjectHandle\" \x7d,",
   "]",
   "",
   "[[function]]",
   "name = \"getCaretLocation\"",
   "returns = \"bool\"",
   "params = [",
   "  \x7b name = \"vmid\", type = \"int\" \x7d,",
   "  \x7b name = \"ac\", type = \"JavaObjectHandle\" \x7d,",
   "  \x7b name = \"rectInfo\", type = \"AccessibleTextRectInfo\", direction = \"out\" \x7d,",
   "  \x7b name = \"index\", type = \"int\" \x7d,",
   "]",
   "",
   "[[function]]",
   "name = \"getEventsWaiting\"",
   "returns = \"int\"",
   "",
   "# ---------------------------------------------------------------------------",
   "# Events",
   "# ---------------------------------------------------------------------------",
   "",
   "[[event]]",
   "name = \"PropertyChange\"",
   "params = [",
   "  \x7b name = \"vmid\", type = \"int\" \x7d,",
   "  \x7b name = \"evt\", type = \"JavaObjectHandle\" \x7d,",
   "  \x7b name = \"source\", type = \"JavaObjectHandle\" \x7d,",
   "  \x7b name = \"property\", type = \"string\", marshal = \x7b kind = \"LPWStr\" \x7d \x7d,",
   "  \x7b name = \"oldValue\", type = \"string\", marshal = \x7b kind = \"LPWStr\" \x7d \x7d,",
   "  \x7b name = \"newValue\", type = \"string\", marshal = \x7b kind = \"LPWStr\" \x7d \x7d,",
   "]",
   "",
   "[[event]]",
   "name = \"JavaShutdown\"",
   "params = [\x7b name = \"vmid\", type = \"int\" \x7d]",
   "",
   "[[event]]",
   "name = \"FocusGained\"",
   "params = [",
   "  \x7b name = \"vmid\", type = \"int\" \x7d,",
   "  \x7b name = \"evt\", type = \"JavaObjectHandle\" \x7d,",
   "  \x7b name = \"source\", type = \"JavaObjectHandle\" \x7d,",
   "]",
   "",
   "[[event]]",
   "name = \"FocusLost\"",
   "params = [",
   "  \x7b name = \"vmid\", type = \"int\" \x7d,",
   "  \x7b name = \"evt\", type = \"JavaObjectHandle\" \x7d,",
   "  \x7b name = \"source\", type = \"JavaObjectHandle\" \x7d,",
   "]",
   "",
   "[[event]]",
   "name = \"CaretUpdate\"",
   "params = [",
   "  \x7b name = \"vmid\", type = \"int\" \x7d,",
   "  \x7b name = \"evt\", type = \"JavaObjectHandle\" \x7d,",
   "  \x7b name = \"source\", type = \"JavaObjectHandle\" \x7d,",
   "]",
   "",
   "[[event]]",
   "name = \"MouseClicked\"",
   "params = [",
   "  \x7b name = \"vmid\", type = \"int\" \x7d,",
   "  \x7b name = \"evt\", type = \"JavaObjectHandle\" \x7d,",
   "  \x7b name = \"source\", type = \"JavaObjectHandle\" \x7d,",
   "]",
   "",
   "[[event]]",
   "name = \"MouseEntered\"",
   "params = [",
   "  \x7b name = \"vmid\", type = \"int\" \x7d,",
   "  \x7b name = \"evt\", type = \"JavaObjectHandle\" \x7d,",
   "  \x7b name = \"source\", type = \"JavaObjectHandle\" \x7d,",
   "]",
   "",
   "[[event]]",
   "name = \"MouseExited\"",
   "params = [",
   "  \x7b name = \"vmid\", type = \"int\" \x7d,",
   "  \x7b name = \"evt\", type = \"JavaObjectHandle\" \x7d,",
   "  \x7b name = \"source\", type = \"JavaObjectHandle\" \x7d,",
   "]",
   "",
   "[[event]]",
   "name = \"MousePressed\"",
   "params = [",
   "  \x7b name = \"vmid\", type = \"int\" \x7d,",
   "  \x7b name = \"evt\", type = \"JavaObjectHandle\" \x7d,",
   "  \x7b name = \"source\", type = \"JavaObjectHandle\" \x7d,",
   "]",
   "",
   "[[event]]",
   "name = \"MouseReleased\"",
   "params = [",
   "  \x7b name = \"vmid\", type = \"int\" \x7d,",
   "  \x7b name = \"evt\", type = \"JavaObjectHandle\" \x7d,",
   "  \x7b name = \"source\", type = \"JavaObjectHandle\" \x7d,",
   "]",
   "",
   "[[event]]",
   "name = \"MenuCanceled\"",
   "params = [",
   "  \x7b name = \"vmid\", type = \"int\" \x7d,",
   "  \x7b name = \"evt\", type = \"JavaObjectHandle\" \x7d,",
   "  \x7b name = \"source\", type = \"JavaObjectHandle\" \x7d,",
   "]",
   "",
   "[[event]]",
   "name = \"MenuDeselected\"",
   "params = [",
   "  \x7b name = \"vmid\", type = \"int\" \x7d,",
   "  \x7b name = \"evt\", type = \"JavaObjectHandle\" \x7d,",
   "  \x7b name = \"source\", type = \"JavaObjectHandle\" \x7d,",
   "]",
   "",
   "[[event]]",
   "name = \"MenuSelected\"",
   "params = [",
   "  \x7b name = \"vmid\", type = \"int\" \x7d,",
   "  \x7b name = \"evt\", type = \"JavaObjectHandle\" \x7d,",
   "  \x7b name = \"source\", type = \"JavaObjectHandle\" \x7d,",
   "]",
   "",
   "[[event]]",
   "name = \"PopupMenuCanceled\"",
   "params = [",
   "  \x7b name = \"vmid\", type = \"int\" \x7d,",
   "  \x7b name = \"evt\", type = \"JavaObjectHandle\" \x7d,",
   "  \x7b name = \"source\", type = \"JavaObjectHandle\" \x7d,",
   "]",
   "",
   "[[event]]",
   "name = \"PopupMenuWillBecomeInvisible\"",
   "params = [",
   "  \x7b name = \"vmid\", type = \"int\" \x7d,",
   "  \x7b name = \"evt\", type = \"JavaObjectHandle\" \x7d,",
   "  \x7b name = \"source\", type = \"JavaObjectHandle\" \x7d,",
   "]",
   "",
   "[[event]]",
   "name = \"PopupMenuWillBecomeVisible\"",
   "params = [",
   "  \x7b name = \"vmid\", type = \"int\" \x7d,",
   "  \x7b name = \"evt\", type = \"JavaObjectHandle\" \x7d,",
   "  \x7b name = \"source\", type = \"JavaObjectHandle\" \x7d,",
   "]",
   "",
   "[[event]]",
   "name = \"PropertyNameChange\"",
   "params = [",
   "  \x7b name = \"vmid\", type = \"int\" \x7d,",
   "  \x7b name = \"evt\", type = \"JavaObjectHandle\" \x7d,",
   "  \x7b name = \"source\", type = \"JavaObjectHandle\" \x7d,",
   "  \x7b name = \"oldName\", type = \"string\", marshal = \x7b kind = \"LPWStr\" \x7d \x7d,",
   "  \x7b name = \"newName\", type = \"string\", marshal = \x7b kind = \"LPWStr\" \x7d \x7d,",
   "]",
   "",
   "[[event]]",
   "name = \"PropertyDescriptionChange\"",
   "params = [",
   "  \x7b name = \"vmid\", type = \"int\" \x7d,",
   "  \x7b name = \"evt\", type = \"JavaObjectHandle\" \x7d,",
   "  \x7b name = \"source\", type = \"JavaObjectHandle\" \x7d,",
   "  \x7b name = \"oldDescription\", type = \"string\", marshal = \x7b kind = \"LPWStr\" " ++
     "\x7d \x7d,",
   "  \x7b name = \"newDescription\", type = \"string\", marshal = \x7b kind = \"LPWStr\" " ++
     "\x7d \x7d,",
   "]",
   "",
   "[[event]]",
   "name = \"PropertyStateChange\"",
   "params = [",
   "  \x7b name = \"vmid\", type = \"int\" \x7d,",
   "  \x7b name = \"evt\", type = \"JavaObjectHandle\" \x7d,",
   "  \x7b name = \"source\", type = \"JavaObjectHandle\" \x7d,",
   "  \x7b name = \"oldState\", type = \"string\", marshal = \x7b kind = \"LPWStr\" \x7d \x7d,",
   "  \x7b name = \"newState\", type = \"string\", marshal = \x7b kind = \"LPWStr\" \x7d \x7d,",
   "]",
   "",
   "[[event]]",
   "name = \"PropertyValueChange\"",
   "params = [",
   "  \x7b name = \"vmid\", type = \"int\" \x7d,",
   "  \x7b name = \"evt\", type = \"JavaObjectHandle\" \x7d,",
   "  \x7b name = \"source\", type = \"JavaObjectHandle\" \x7d,",
   "  \x7b name = \"oldValue\", type = \"string\", marshal = \x7b kind = \"LPWStr\" \x7d \x7d,",
   "  \x7b name = \"newValue\", type = \"string\", marshal = \x7b kind = \"LPWStr\" \x7d \x7d,",
   "]",
   "",
   "[[event]]",
   "name = \"PropertySelectionChange\"",
   "params = [",
   "  \x7b name = \"vmid\", type = \"int\" \x7d,",
   "  \x7b name = \"evt\", type = \"JavaObjectHandle\" \x7d,",
   "  \x7b name = \"source\", type = \"JavaObjectHandle\" \x7d,",
   "]",
   "",
   "[[event]]",
   "name = \"PropertyTextChange\"",
   "params = [",
   "  \x7b name = \"vmid\", type = \"int\" \x7d,",
   "  \x7b name = \"evt\", type = \"JavaObjectHandle\" \x7d,",
   "  \x7b name = \"source\", type = \"JavaObjectHandle\" \x7d,",
   "]",
   "",
   "[[event]]",
   "name = \"PropertyCaretChange\"",
   "params = [",
   "  \x7b name = \"vmid\", type = \"int\" \x7d,",
   "  \x7b name = \"evt\", type = \"JavaObjectHandle\" \x7d,",
   "  \x7b name = \"source\", type = \"JavaObjectHandle\" \x7d,",
   "  \x7b name = \"oldPosition\", type = \"int\" \x7d,",
   "  \x7b name = \"newPosition\", type = \"int\" \x7d,",
   "]",
   "",
   "[[event]]",
   "name = \"PropertyVisibleDataChange\"",
   "params = [",
   "  \x7b name = \"vmid\", type = \"int\" \x7d,",
   "  \x7b name = \"evt\", type = \"JavaObjectHandle\" \x7d,",
   "  \x7b name = \"source\", type = \"JavaObjectHandle\" \x7d,",
   "]",
   "",
   "[[event]]",
   "name = \"PropertyChildChange\"",
   "params = [",
   "  \x7b name = \"vmid\", type = \"int\" \x7d,",
   "  \x7b name = \"evt\", type = \"JavaObjectHandle\" \x7d,",
   "  \x7b name = \"source\", type = \"JavaObjectHandle\" \x7d,",
   "  \x7b name = \"oldChild\", type = \"JavaObjectHandle\" \x7d,",
   "  \x7b name = \"newChild\", type = \"JavaObjectHandle\" \x7d,",
   "]",
   "",
   "[[event]]",
   "name = \"PropertyActiveDescendentChange\"",
   "params = [",
   "  \x7b name = \"vmid\", type = \"int\" \x7d,",
   "  \x7b name = \"evt\", type = \"JavaObjectHandle\" \x7d,",
   "  \x7b name = \"source\", type = \"JavaObjectHandle\" \x7d,",
   "  \x7b name = \"oldActiveDescendent\", type = \"JavaObjectHandle\" \x7d,",
   "  \x7b name = \"newActiveDescendent\", type = \"JavaObjectHandle\" \x7d,",
   "]",
   "",
   "[[event]]",
   "name = \"PropertyTableModelChange\"",
   "params = [",
   "  \x7b name = \"vmid\", type = \"int\" \x7d,",
   "  \x7b name = \"evt\", type = \"JavaObjectHandle\" \x7d,",
   "  \x7b name = \"src\", type = \"JavaObjectHandle\" \x7d,",
   "  \x7b name = \"oldValue\", type = \"string\", marshal = \x7b kind = \"LPWStr\" \x7d \x7d,",
   "  \x7b name = \"newValue\", type = \"string\", marshal = \x7b kind = \"LPWStr\" \x7d \x7d,",
   "]"]

/-- The schema document of the Access Bridge. -/
def schemaText : String := String.join (schemaLines.map (· ++ "\n"))

end InteropGlue.AccessBridge
