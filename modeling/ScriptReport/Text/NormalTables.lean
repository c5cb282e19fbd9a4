/-
  ScriptReport.Text.NormalTables

  What characters are equivalent to, which pairs of characters are equivalent to one, and in
  which order marks follow a character.
-/

namespace ScriptReport.Text

/-- The texts that characters are equivalent to, in rows of neighbours behind the number of the
    first one. A line feed stands between two. -/
def expansionRows : List (Nat × String) :=
  [(0xA0, " "), (0xA8, " \u0308"), (0xAA, "a"), (0xAF, " \u0304"), (0xB2, "2\n3\n \u0301\nμ"),
   (0xB8, " \u0327\n1\no"), (0xBC, "1⁄4\n1⁄2\n3⁄4"),
   (0xC0, "A\u0300\nA\u0301\nA\u0302\nA\u0303\nA\u0308\nA\u030a"),
   (0xC7, "C\u0327\nE\u0300\nE\u0301\nE\u0302\nE\u0308\nI\u0300\nI\u0301\nI\u0302\nI\u0308"),
   (0xD1, "N\u0303\nO\u0300\nO\u0301\nO\u0302\nO\u0303\nO\u0308"),
   (0xD9, "U\u0300\nU\u0301\nU\u0302\nU\u0308\nY\u0301"),
   (0xE0, "a\u0300\na\u0301\na\u0302\na\u0303\na\u0308\na\u030a"),
   (0xE7, "c\u0327\ne\u0300\ne\u0301\ne\u0302\ne\u0308\ni\u0300\ni\u0301\ni\u0302\ni\u0308"),
   (0xF1, "n\u0303\no\u0300\no\u0301\no\u0302\no\u0303\no\u0308"),
   (0xF9, "u\u0300\nu\u0301\nu\u0302\nu\u0308\ny\u0301"),
   (0xFF, "y\u0308\nA\u0304\na\u0304\nA\u0306\na\u0306\nA\u0328\na\u0328\nC\u0301\nc\u0301"),
   (0x108, "C\u0302\nc\u0302\nC\u0307\nc\u0307\nC\u030c\nc\u030c\nD\u030c\nd\u030c"),
   (0x112, "E\u0304\ne\u0304\nE\u0306\ne\u0306\nE\u0307\ne\u0307\nE\u0328\ne\u0328\nE\u030c"),
   (0x11B, "e\u030c\nG\u0302\ng\u0302\nG\u0306\ng\u0306\nG\u0307\ng\u0307\nG\u0327\ng\u0327"),
   (0x124, "H\u0302\nh\u0302"),
   (0x128, "I\u0303\ni\u0303\nI\u0304\ni\u0304\nI\u0306\ni\u0306\nI\u0328\ni\u0328\nI\u0307"),
   (0x132, "IJ\nij\nJ\u0302\nj\u0302\nK\u0327\nk\u0327"),
   (0x139, "L\u0301\nl\u0301\nL\u0327\nl\u0327\nL\u030c\nl\u030c\nL·\nl·"),
   (0x143, "N\u0301\nn\u0301\nN\u0327\nn\u0327\nN\u030c\nn\u030c\nʼn"),
   (0x14C, "O\u0304\no\u0304\nO\u0306\no\u0306\nO\u030b\no\u030b"),
   (0x154, "R\u0301\nr\u0301\nR\u0327\nr\u0327\nR\u030c\nr\u030c\nS\u0301\ns\u0301\nS\u0302"),
   (0x15D, "s\u0302\nS\u0327\ns\u0327\nS\u030c\ns\u030c\nT\u0327\nt\u0327\nT\u030c\nt\u030c"),
   (0x168, "U\u0303\nu\u0303\nU\u0304\nu\u0304\nU\u0306\nu\u0306\nU\u030a\nu\u030a\nU\u030b"),
   (0x171, "u\u030b\nU\u0328\nu\u0328\nW\u0302\nw\u0302\nY\u0302\ny\u0302\nY\u0308\nZ\u0301"),
   (0x17A, "z\u0301\nZ\u0307\nz\u0307\nZ\u030c\nz\u030c\ns"), (0x1A0, "O\u031b\no\u031b"),
   (0x1AF, "U\u031b\nu\u031b"),
   (0x1C4, "DZ\u030c\nDz\u030c\ndz\u030c\nLJ\nLj\nlj\nNJ\nNj\nnj\nA\u030c\na\u030c\nI\u030c"),
   (0x1D0, "i\u030c\nO\u030c\no\u030c\nU\u030c\nu\u030c\nU\u0308\u0304\nu\u0308\u0304"),
   (0x1D7, "U\u0308\u0301\nu\u0308\u0301\nU\u0308\u030c\nu\u0308\u030c\nU\u0308\u0300"),
   (0x1DC, "u\u0308\u0300"),
   (0x1DE, "A\u0308\u0304\na\u0308\u0304\nA\u0307\u0304\na\u0307\u0304\nÆ\u0304\næ\u0304"),
   (0x1E6, "G\u030c\ng\u030c\nK\u030c\nk\u030c\nO\u0328\no\u0328\nO\u0328\u0304\no\u0328\u0304"),
   (0x1EE, "Ʒ\u030c\nʒ\u030c\nj\u030c\nDZ\nDz\ndz\nG\u0301\ng\u0301"),
   (0x1F8, "N\u0300\nn\u0300\nA\u030a\u0301\na\u030a\u0301\nÆ\u0301\næ\u0301\nØ\u0301\nø\u0301"),
   (0x200, "A\u030f\na\u030f\nA\u0311\na\u0311\nE\u030f\ne\u030f\nE\u0311\ne\u0311\nI\u030f"),
   (0x209, "i\u030f\nI\u0311\ni\u0311\nO\u030f\no\u030f\nO\u0311\no\u0311\nR\u030f\nr\u030f"),
   (0x212, "R\u0311\nr\u0311\nU\u030f\nu\u030f\nU\u0311\nu\u0311\nS\u0326\ns\u0326\nT\u0326"),
   (0x21B, "t\u0326"), (0x21E, "H\u030c\nh\u030c"),
   (0x226, "A\u0307\na\u0307\nE\u0327\ne\u0327\nO\u0308\u0304\no\u0308\u0304\nO\u0303\u0304"),
   (0x22D, "o\u0303\u0304\nO\u0307\no\u0307\nO\u0307\u0304\no\u0307\u0304\nY\u0304\ny\u0304"),
   (0x2B0, "h\nɦ\nj\nr\nɹ\nɻ\nʁ\nw\ny"),
   (0x2D8, " \u0306\n \u0307\n \u030a\n \u0328\n \u0303\n \u030b"), (0x2E0, "ɣ\nl\ns\nx\nʕ"),
   (0x340, "\u0300\n\u0301"), (0x343, "\u0313\n\u0308\u0301"), (0x374, "ʹ"), (0x37A, " \u0345"),
   (0x37E, ";"), (0x384, " \u0301\n \u0308\u0301\nΑ\u0301\n·\nΕ\u0301\nΗ\u0301\nΙ\u0301"),
   (0x38C, "Ο\u0301"), (0x38E, "Υ\u0301\nΩ\u0301\nι\u0308\u0301"),
   (0x3AA, "Ι\u0308\nΥ\u0308\nα\u0301\nε\u0301\nη\u0301\nι\u0301\nυ\u0308\u0301"),
   (0x3CA, "ι\u0308\nυ\u0308\nο\u0301\nυ\u0301\nω\u0301"),
   (0x3D0, "β\nθ\nΥ\nΥ\u0301\nΥ\u0308\nφ\nπ"), (0x3F0, "κ\nρ\nς"), (0x3F4, "Θ\nε"),
   (0x400, "Е\u0300\nЕ\u0308"), (0x403, "Г\u0301"), (0x407, "І\u0308"),
   (0x40C, "К\u0301\nИ\u0300\nУ\u0306"), (0x419, "И\u0306"), (0x439, "и\u0306"),
   (0x450, "е\u0300\nе\u0308"), (0x453, "г\u0301"), (0x457, "і\u0308"),
   (0x45C, "к\u0301\nи\u0300\nу\u0306"), (0x476, "Ѵ\u030f\nѵ\u030f"), (0x4C1, "Ж\u0306\nж\u0306"),
   (0x4D0, "А\u0306\nа\u0306\nА\u0308\nа\u0308"), (0x4D6, "Е\u0306\nе\u0306"),
   (0x4DA, "Ә\u0308\nә\u0308\nЖ\u0308\nж\u0308\nЗ\u0308\nз\u0308"),
   (0x4E2, "И\u0304\nи\u0304\nИ\u0308\nи\u0308\nО\u0308\nо\u0308"),
   (0x4EA, "Ө\u0308\nө\u0308\nЭ\u0308\nэ\u0308\nУ\u0304\nу\u0304\nУ\u0308\nу\u0308\nУ\u030b"),
   (0x4F3, "у\u030b\nЧ\u0308\nч\u0308"), (0x4F8, "Ы\u0308\nы\u0308"), (0x587, "եւ"),
   (0x622, "\u0627\u0653\n\u0627\u0654\n\u0648\u0654\n\u0627\u0655\n\u064a\u0654"),
   (0x675, "\u0627\u0674\n\u0648\u0674\n\u06c7\u0674\n\u064a\u0674"), (0x6C0, "\u06d5\u0654"),
   (0x6C2, "\u06c1\u0654"), (0x6D3, "\u06d2\u0654"), (0x929, "न\u093c"), (0x931, "र\u093c"),
   (0x934, "ळ\u093c"),
   (0x958, "क\u093c\nख\u093c\nग\u093c\nज\u093c\nड\u093c\nढ\u093c\nफ\u093c\nय\u093c"),
   (0x9CB, "ো\nৌ"), (0x9DC, "ড\u09bc\nঢ\u09bc"), (0x9DF, "য\u09bc"), (0xA33, "ਲ\u0a3c"),
   (0xA36, "ਸ\u0a3c"), (0xA59, "ਖ\u0a3c\nਗ\u0a3c\nਜ\u0a3c"), (0xA5E, "ਫ\u0a3c"), (0xB48, "େ\u0b56"),
   (0xB4B, "ୋ\nୌ"), (0xB5C, "ଡ\u0b3c\nଢ\u0b3c"), (0xB94, "ஔ"), (0xBCA, "ொ\nோ\nௌ"),
   (0xC48, "\u0c46\u0c56"), (0xCC0, "\u0cbfೕ"), (0xCC7, "\u0cc6ೕ\n\u0cc6ೖ"),
   (0xCCA, "\u0cc6ೂ\n\u0cc6ೂೕ"), (0xD4A, "ൊ\nോ\nൌ"), (0xDDA, "ෙ\u0dca"),
   (0xDDC, "ො\nො\u0dca\nෞ"), (0xE33, "\u0e4dา"), (0xEB3, "\u0ecdາ"), (0xEDC, "ຫນ\nຫມ"),
   (0xF0C, "་"), (0xF43, "ག\u0fb7"), (0xF4D, "ཌ\u0fb7"), (0xF52, "ད\u0fb7"), (0xF57, "བ\u0fb7"),
   (0xF5C, "ཛ\u0fb7"), (0xF69, "ཀ\u0fb5"), (0xF73, "\u0f71\u0f72"),
   (0xF75, "\u0f71\u0f74\n\u0fb2\u0f80\n\u0fb2\u0f71\u0f80\n\u0fb3\u0f80\n\u0fb3\u0f71\u0f80"),
   (0xF81, "\u0f71\u0f80"), (0xF93, "\u0f92\u0fb7"), (0xF9D, "\u0f9c\u0fb7"),
   (0xFA2, "\u0fa1\u0fb7"), (0xFA7, "\u0fa6\u0fb7"), (0xFAC, "\u0fab\u0fb7"),
   (0xFB9, "\u0f90\u0fb5"), (0x1026, "ဥ\u102e"),
   (0x1E00, "A\u0325\na\u0325\nB\u0307\nb\u0307\nB\u0323\nb\u0323\nB\u0331\nb\u0331"),
   (0x1E08, "C\u0327\u0301\nc\u0327\u0301\nD\u0307\nd\u0307\nD\u0323\nd\u0323\nD\u0331"),
   (0x1E0F, "d\u0331\nD\u0327\nd\u0327\nD\u032d\nd\u032d\nE\u0304\u0300\ne\u0304\u0300"),
   (0x1E16, "E\u0304\u0301\ne\u0304\u0301\nE\u032d\ne\u032d\nE\u0330\ne\u0330\nE\u0327\u0306"),
   (0x1E1D, "e\u0327\u0306\nF\u0307\nf\u0307\nG\u0304\ng\u0304\nH\u0307\nh\u0307\nH\u0323"),
   (0x1E25, "h\u0323\nH\u0308\nh\u0308\nH\u0327\nh\u0327\nH\u032e\nh\u032e\nI\u0330\ni\u0330"),
   (0x1E2E, "I\u0308\u0301\ni\u0308\u0301\nK\u0301\nk\u0301\nK\u0323\nk\u0323\nK\u0331"),
   (0x1E35, "k\u0331\nL\u0323\nl\u0323\nL\u0323\u0304\nl\u0323\u0304\nL\u0331\nl\u0331"),
   (0x1E3C, "L\u032d\nl\u032d\nM\u0301\nm\u0301\nM\u0307\nm\u0307\nM\u0323\nm\u0323\nN\u0307"),
   (0x1E45, "n\u0307\nN\u0323\nn\u0323\nN\u0331\nn\u0331\nN\u032d\nn\u032d\nO\u0303\u0301"),
   (0x1E4D, "o\u0303\u0301\nO\u0303\u0308\no\u0303\u0308\nO\u0304\u0300\no\u0304\u0300"),
   (0x1E52, "O\u0304\u0301\no\u0304\u0301\nP\u0301\np\u0301\nP\u0307\np\u0307\nR\u0307"),
   (0x1E59, "r\u0307\nR\u0323\nr\u0323\nR\u0323\u0304\nr\u0323\u0304\nR\u0331\nr\u0331"),
   (0x1E60, "S\u0307\ns\u0307\nS\u0323\ns\u0323\nS\u0301\u0307\ns\u0301\u0307\nS\u030c\u0307"),
   (0x1E67, "s\u030c\u0307\nS\u0323\u0307\ns\u0323\u0307\nT\u0307\nt\u0307\nT\u0323\nt\u0323"),
   (0x1E6E, "T\u0331\nt\u0331\nT\u032d\nt\u032d\nU\u0324\nu\u0324\nU\u0330\nu\u0330\nU\u032d"),
   (0x1E77, "u\u032d\nU\u0303\u0301\nu\u0303\u0301\nU\u0304\u0308\nu\u0304\u0308\nV\u0303"),
   (0x1E7D, "v\u0303\nV\u0323\nv\u0323\nW\u0300\nw\u0300\nW\u0301\nw\u0301\nW\u0308\nw\u0308"),
   (0x1E86, "W\u0307\nw\u0307\nW\u0323\nw\u0323\nX\u0307\nx\u0307\nX\u0308\nx\u0308\nY\u0307"),
   (0x1E8F, "y\u0307\nZ\u0302\nz\u0302\nZ\u0323\nz\u0323\nZ\u0331\nz\u0331\nh\u0331\nt\u0308"),
   (0x1E98, "w\u030a\ny\u030a\naʾ\ns\u0307"),
   (0x1EA0, "A\u0323\na\u0323\nA\u0309\na\u0309\nA\u0302\u0301\na\u0302\u0301\nA\u0302\u0300"),
   (0x1EA7, "a\u0302\u0300\nA\u0302\u0309\na\u0302\u0309\nA\u0302\u0303\na\u0302\u0303"),
   (0x1EAC, "A\u0323\u0302\na\u0323\u0302\nA\u0306\u0301\na\u0306\u0301\nA\u0306\u0300"),
   (0x1EB1, "a\u0306\u0300\nA\u0306\u0309\na\u0306\u0309\nA\u0306\u0303\na\u0306\u0303"),
   (0x1EB6, "A\u0323\u0306\na\u0323\u0306\nE\u0323\ne\u0323\nE\u0309\ne\u0309\nE\u0303"),
   (0x1EBD, "e\u0303\nE\u0302\u0301\ne\u0302\u0301\nE\u0302\u0300\ne\u0302\u0300"),
   (0x1EC2, "E\u0302\u0309\ne\u0302\u0309\nE\u0302\u0303\ne\u0302\u0303\nE\u0323\u0302"),
   (0x1EC7, "e\u0323\u0302\nI\u0309\ni\u0309\nI\u0323\ni\u0323\nO\u0323\no\u0323\nO\u0309"),
   (0x1ECF, "o\u0309\nO\u0302\u0301\no\u0302\u0301\nO\u0302\u0300\no\u0302\u0300"),
   (0x1ED4, "O\u0302\u0309\no\u0302\u0309\nO\u0302\u0303\no\u0302\u0303\nO\u0323\u0302"),
   (0x1ED9, "o\u0323\u0302\nO\u031b\u0301\no\u031b\u0301\nO\u031b\u0300\no\u031b\u0300"),
   (0x1EDE, "O\u031b\u0309\no\u031b\u0309\nO\u031b\u0303\no\u031b\u0303\nO\u031b\u0323"),
   (0x1EE3, "o\u031b\u0323\nU\u0323\nu\u0323\nU\u0309\nu\u0309\nU\u031b\u0301\nu\u031b\u0301"),
   (0x1EEA, "U\u031b\u0300\nu\u031b\u0300\nU\u031b\u0309\nu\u031b\u0309\nU\u031b\u0303"),
   (0x1EEF, "u\u031b\u0303\nU\u031b\u0323\nu\u031b\u0323\nY\u0300\ny\u0300\nY\u0323\ny\u0323"),
   (0x1EF6, "Y\u0309\ny\u0309\nY\u0303\ny\u0303"),
   (0x1F00, "α\u0313\nα\u0314\nα\u0313\u0300\nα\u0314\u0300\nα\u0313\u0301\nα\u0314\u0301"),
   (0x1F06, "α\u0313\u0342\nα\u0314\u0342\nΑ\u0313\nΑ\u0314\nΑ\u0313\u0300\nΑ\u0314\u0300"),
   (0x1F0C, "Α\u0313\u0301\nΑ\u0314\u0301\nΑ\u0313\u0342\nΑ\u0314\u0342\nε\u0313\nε\u0314"),
   (0x1F12, "ε\u0313\u0300\nε\u0314\u0300\nε\u0313\u0301\nε\u0314\u0301"),
   (0x1F18, "Ε\u0313\nΕ\u0314\nΕ\u0313\u0300\nΕ\u0314\u0300\nΕ\u0313\u0301\nΕ\u0314\u0301"),
   (0x1F20, "η\u0313\nη\u0314\nη\u0313\u0300\nη\u0314\u0300\nη\u0313\u0301\nη\u0314\u0301"),
   (0x1F26, "η\u0313\u0342\nη\u0314\u0342\nΗ\u0313\nΗ\u0314\nΗ\u0313\u0300\nΗ\u0314\u0300"),
   (0x1F2C, "Η\u0313\u0301\nΗ\u0314\u0301\nΗ\u0313\u0342\nΗ\u0314\u0342\nι\u0313\nι\u0314"),
   (0x1F32, "ι\u0313\u0300\nι\u0314\u0300\nι\u0313\u0301\nι\u0314\u0301\nι\u0313\u0342"),
   (0x1F37, "ι\u0314\u0342\nΙ\u0313\nΙ\u0314\nΙ\u0313\u0300\nΙ\u0314\u0300\nΙ\u0313\u0301"),
   (0x1F3D, "Ι\u0314\u0301\nΙ\u0313\u0342\nΙ\u0314\u0342\nο\u0313\nο\u0314\nο\u0313\u0300"),
   (0x1F43, "ο\u0314\u0300\nο\u0313\u0301\nο\u0314\u0301"),
   (0x1F48, "Ο\u0313\nΟ\u0314\nΟ\u0313\u0300\nΟ\u0314\u0300\nΟ\u0313\u0301\nΟ\u0314\u0301"),
   (0x1F50, "υ\u0313\nυ\u0314\nυ\u0313\u0300\nυ\u0314\u0300\nυ\u0313\u0301\nυ\u0314\u0301"),
   (0x1F56, "υ\u0313\u0342\nυ\u0314\u0342"), (0x1F59, "Υ\u0314"), (0x1F5B, "Υ\u0314\u0300"),
   (0x1F5D, "Υ\u0314\u0301"),
   (0x1F5F, "Υ\u0314\u0342\nω\u0313\nω\u0314\nω\u0313\u0300\nω\u0314\u0300\nω\u0313\u0301"),
   (0x1F65, "ω\u0314\u0301\nω\u0313\u0342\nω\u0314\u0342\nΩ\u0313\nΩ\u0314\nΩ\u0313\u0300"),
   (0x1F6B, "Ω\u0314\u0300\nΩ\u0313\u0301\nΩ\u0314\u0301\nΩ\u0313\u0342\nΩ\u0314\u0342"),
   (0x1F70, "α\u0300\nα\u0301\nε\u0300\nε\u0301\nη\u0300\nη\u0301\nι\u0300\nι\u0301\nο\u0300"),
   (0x1F79, "ο\u0301\nυ\u0300\nυ\u0301\nω\u0300\nω\u0301"),
   (0x1F80, "α\u0313\u0345\nα\u0314\u0345\nα\u0313\u0300\u0345\nα\u0314\u0300\u0345"),
   (0x1F84, "α\u0313\u0301\u0345\nα\u0314\u0301\u0345\nα\u0313\u0342\u0345"),
   (0x1F87, "α\u0314\u0342\u0345\nΑ\u0313\u0345\nΑ\u0314\u0345\nΑ\u0313\u0300\u0345"),
   (0x1F8B, "Α\u0314\u0300\u0345\nΑ\u0313\u0301\u0345\nΑ\u0314\u0301\u0345"),
   (0x1F8E, "Α\u0313\u0342\u0345\nΑ\u0314\u0342\u0345\nη\u0313\u0345\nη\u0314\u0345"),
   (0x1F92, "η\u0313\u0300\u0345\nη\u0314\u0300\u0345\nη\u0313\u0301\u0345"),
   (0x1F95, "η\u0314\u0301\u0345\nη\u0313\u0342\u0345\nη\u0314\u0342\u0345\nΗ\u0313\u0345"),
   (0x1F99, "Η\u0314\u0345\nΗ\u0313\u0300\u0345\nΗ\u0314\u0300\u0345\nΗ\u0313\u0301\u0345"),
   (0x1F9D, "Η\u0314\u0301\u0345\nΗ\u0313\u0342\u0345\nΗ\u0314\u0342\u0345\nω\u0313\u0345"),
   (0x1FA1, "ω\u0314\u0345\nω\u0313\u0300\u0345\nω\u0314\u0300\u0345\nω\u0313\u0301\u0345"),
   (0x1FA5, "ω\u0314\u0301\u0345\nω\u0313\u0342\u0345\nω\u0314\u0342\u0345\nΩ\u0313\u0345"),
   (0x1FA9, "Ω\u0314\u0345\nΩ\u0313\u0300\u0345\nΩ\u0314\u0300\u0345\nΩ\u0313\u0301\u0345"),
   (0x1FAD, "Ω\u0314\u0301\u0345\nΩ\u0313\u0342\u0345\nΩ\u0314\u0342\u0345\nα\u0306\nα\u0304"),
   (0x1FB2, "α\u0300\u0345\nα\u0345\nα\u0301\u0345"),
   (0x1FB6, "α\u0342\nα\u0342\u0345\nΑ\u0306\nΑ\u0304\nΑ\u0300\nΑ\u0301\nΑ\u0345\n \u0313\nι"),
   (0x1FBF, " \u0313\n \u0342\n \u0308\u0342\nη\u0300\u0345\nη\u0345\nη\u0301\u0345"),
   (0x1FC6, "η\u0342\nη\u0342\u0345\nΕ\u0300\nΕ\u0301\nΗ\u0300\nΗ\u0301\nΗ\u0345"),
   (0x1FCD, " \u0313\u0300\n \u0313\u0301\n \u0313\u0342\nι\u0306\nι\u0304\nι\u0308\u0300"),
   (0x1FD3, "ι\u0308\u0301"),
   (0x1FD6, "ι\u0342\nι\u0308\u0342\nΙ\u0306\nΙ\u0304\nΙ\u0300\nΙ\u0301"),
   (0x1FDD, " \u0314\u0300\n \u0314\u0301\n \u0314\u0342\nυ\u0306\nυ\u0304\nυ\u0308\u0300"),
   (0x1FE3, "υ\u0308\u0301\nρ\u0313\nρ\u0314\nυ\u0342\nυ\u0308\u0342\nΥ\u0306\nΥ\u0304"),
   (0x1FEA, "Υ\u0300\nΥ\u0301\nΡ\u0314\n \u0308\u0300\n \u0308\u0301\n\x60"),
   (0x1FF2, "ω\u0300\u0345\nω\u0345\nω\u0301\u0345"),
   (0x1FF6, "ω\u0342\nω\u0342\u0345\nΟ\u0300\nΟ\u0301\nΩ\u0300\nΩ\u0301\nΩ\u0345\n \u0301"),
   (0x1FFE, " \u0314"), (0x2000, " \n \n \n \n \n \n \n \n \n \n "), (0x2011, "‐"),
   (0x2017, " \u0333"), (0x2024, ".\n..\n..."), (0x202F, " "), (0x2033, "′′\n′′′"),
   (0x2036, "‵‵\n‵‵‵"), (0x203C, "!!"), (0x203E, " \u0305"), (0x2047, "??\n?!\n!?"),
   (0x2057, "′′′′"), (0x205F, " "), (0x2070, "0\ni"),
   (0x2074, "4\n5\n6\n7\n8\n9\n+\n−\n=\n(\n)\nn\n0\n1\n2\n3\n4\n5\n6\n7\n8\n9\n+\n−\n=\n(\n)"),
   (0x20A8, "Rs"), (0x2100, "a/c\na/s\nC\n°C"), (0x2105, "c/o\nc/u\nƐ"),
   (0x2109, "°F\ng\nH\nH\nH\nh\nħ\nI\nI\nL\nl"), (0x2115, "N\nNo"), (0x2119, "P\nQ\nR\nR\nR"),
   (0x2120, "SM\nTEL\nTM"), (0x2124, "Z"), (0x2126, "Ω"), (0x2128, "Z"),
   (0x212A, "K\nA\u030a\nB\nC"), (0x212F, "e\nE\nF"),
   (0x2133, "M\no\n\u05d0\n\u05d1\n\u05d2\n\u05d3\ni"), (0x213D, "γ\nΓ\nΠ\n∑"),
   (0x2145, "D\nd\ne\ni\nj"),
   (0x2153, "1⁄3\n2⁄3\n1⁄5\n2⁄5\n3⁄5\n4⁄5\n1⁄6\n5⁄6\n1⁄8\n3⁄8\n5⁄8\n7⁄8\n1⁄\nI\nII\nIII\nIV\nV"),
   (0x2165, "VI\nVII\nVIII\nIX\nX\nXI\nXII\nL\nC\nD\nM\ni\nii\niii\niv\nv\nvi\nvii\nviii\nix"),
   (0x2179, "x\nxi\nxii\nl\nc\nd\nm"), (0x219A, "←\u0338\n→\u0338"), (0x21AE, "↔\u0338"),
   (0x21CD, "⇐\u0338\n⇔\u0338\n⇒\u0338"), (0x2204, "∃\u0338"), (0x2209, "∈\u0338"),
   (0x220C, "∋\u0338"), (0x2224, "∣\u0338"), (0x2226, "∥\u0338"), (0x222C, "∫∫\n∫∫∫"),
   (0x222F, "∮∮\n∮∮∮"), (0x2241, "∼\u0338"), (0x2244, "≃\u0338"), (0x2247, "≅\u0338"),
   (0x2249, "≈\u0338"), (0x2260, "=\u0338"), (0x2262, "≡\u0338"),
   (0x226D, "≍\u0338\n<\u0338\n>\u0338\n≤\u0338\n≥\u0338"), (0x2274, "≲\u0338\n≳\u0338"),
   (0x2278, "≶\u0338\n≷\u0338"), (0x2280, "≺\u0338\n≻\u0338"), (0x2284, "⊂\u0338\n⊃\u0338"),
   (0x2288, "⊆\u0338\n⊇\u0338"), (0x22AC, "⊢\u0338\n⊨\u0338\n⊩\u0338\n⊫\u0338"),
   (0x22E0, "≼\u0338\n≽\u0338\n⊑\u0338\n⊒\u0338"), (0x22EA, "⊲\u0338\n⊳\u0338\n⊴\u0338\n⊵\u0338"),
   (0x2329, "〈\n〉"),
   (0x2460, "1\n2\n3\n4\n5\n6\n7\n8\n9\n10\n11\n12\n13\n14\n15\n16\n17\n18\n19\n20\n(1)\n(2)"),
   (0x2476, "(3)\n(4)\n(5)\n(6)\n(7)\n(8)\n(9)\n(10)\n(11)\n(12)\n(13)\n(14)\n(15)\n(16)\n(17)"),
   (0x2485, "(18)\n(19)\n(20)\n1.\n2.\n3.\n4.\n5.\n6.\n7.\n8.\n9.\n10.\n11.\n12.\n13.\n14."),
   (0x2496, "15.\n16.\n17.\n18.\n19.\n20.\n(a)\n(b)\n(c)\n(d)\n(e)\n(f)\n(g)\n(h)\n(i)\n(j)"),
   (0x24A6, "(k)\n(l)\n(m)\n(n)\n(o)\n(p)\n(q)\n(r)\n(s)\n(t)\n(u)\n(v)\n(w)\n(x)\n(y)\n(z)\nA"),
   (0x24B7, "B\nC\nD\nE\nF\nG\nH\nI\nJ\nK\nL\nM\nN\nO\nP\nQ\nR\nS\nT\nU\nV\nW\nX\nY\nZ\na\nb"),
   (0x24D2, "c\nd\ne\nf\ng\nh\ni\nj\nk\nl\nm\nn\no\np\nq\nr\ns\nt\nu\nv\nw\nx\ny\nz\n0"),
   (0x2A0C, "∫∫∫∫"), (0x2A74, "::=\n==\n==="), (0x2ADC, "⫝\u0338"), (0x2E9F, "母"), (0x2EF3, "龟"),
   (0x2F00, "一\n丨\n丶\n丿\n乙\n亅\n二\n亠\n人\n儿\n入\n八\n冂\n冖\n冫\n几\n凵\n刀\n力\n勹\n匕\n匚\n匸\n十\n卜\n卩\n厂"),
   (0x2F1B, "厶\n又\n口\n囗\n土\n士\n夂\n夊\n夕\n大\n女\n子\n宀\n寸\n小\n尢\n尸\n屮\n山\n巛\n工\n己\n巾\n干\n幺\n广\n廴"),
   (0x2F36, "廾\n弋\n弓\n彐\n彡\n彳\n心\n戈\n戶\n手\n支\n攴\n文\n斗\n斤\n方\n无\n日\n曰\n月\n木\n欠\n止\n歹\n殳\n毋\n比"),
   (0x2F51, "毛\n氏\n气\n水\n火\n爪\n父\n爻\n爿\n片\n牙\n牛\n犬\n玄\n玉\n瓜\n瓦\n甘\n生\n用\n田\n疋\n疒\n癶\n白\n皮\n皿"),
   (0x2F6C, "目\n矛\n矢\n石\n示\n禸\n禾\n穴\n立\n竹\n米\n糸\n缶\n网\n羊\n羽\n老\n而\n耒\n耳\n聿\n肉\n臣\n自\n至\n臼\n舌"),
   (0x2F87, "舛\n舟\n艮\n色\n艸\n虍\n虫\n血\n行\n衣\n襾\n見\n角\n言\n谷\n豆\n豕\n豸\n貝\n赤\n走\n足\n身\n車\n辛\n辰\n辵"),
   (0x2FA2, "邑\n酉\n釆\n里\n金\n長\n門\n阜\n隶\n隹\n雨\n靑\n非\n面\n革\n韋\n韭\n音\n頁\n風\n飛\n食\n首\n香\n馬\n骨\n高"),
   (0x2FBD, "髟\n鬥\n鬯\n鬲\n鬼\n魚\n鳥\n鹵\n鹿\n麥\n麻\n黃\n黍\n黑\n黹\n黽\n鼎\n鼓\n鼠\n鼻\n齊\n齒\n龍\n龜\n龠"),
   (0x3000, " "), (0x3036, "〒"), (0x3038, "十\n卄\n卅"), (0x304C, "か\u3099"), (0x304E, "き\u3099"),
   (0x3050, "く\u3099"), (0x3052, "け\u3099"), (0x3054, "こ\u3099"), (0x3056, "さ\u3099"),
   (0x3058, "し\u3099"), (0x305A, "す\u3099"), (0x305C, "せ\u3099"), (0x305E, "そ\u3099"),
   (0x3060, "た\u3099"), (0x3062, "ち\u3099"), (0x3065, "つ\u3099"), (0x3067, "て\u3099"),
   (0x3069, "と\u3099"), (0x3070, "は\u3099\nは\u309a"), (0x3073, "ひ\u3099\nひ\u309a"),
   (0x3076, "ふ\u3099\nふ\u309a"), (0x3079, "へ\u3099\nへ\u309a"), (0x307C, "ほ\u3099\nほ\u309a"),
   (0x3094, "う\u3099"), (0x309B, " \u3099\n \u309a"), (0x309E, "ゝ\u3099\nより"), (0x30AC, "カ\u3099"),
   (0x30AE, "キ\u3099"), (0x30B0, "ク\u3099"), (0x30B2, "ケ\u3099"), (0x30B4, "コ\u3099"),
   (0x30B6, "サ\u3099"), (0x30B8, "シ\u3099"), (0x30BA, "ス\u3099"), (0x30BC, "セ\u3099"),
   (0x30BE, "ソ\u3099"), (0x30C0, "タ\u3099"), (0x30C2, "チ\u3099"), (0x30C5, "ツ\u3099"),
   (0x30C7, "テ\u3099"), (0x30C9, "ト\u3099"), (0x30D0, "ハ\u3099\nハ\u309a"),
   (0x30D3, "ヒ\u3099\nヒ\u309a"), (0x30D6, "フ\u3099\nフ\u309a"), (0x30D9, "ヘ\u3099\nヘ\u309a"),
   (0x30DC, "ホ\u3099\nホ\u309a"), (0x30F4, "ウ\u3099"),
   (0x30F7, "ワ\u3099\nヰ\u3099\nヱ\u3099\nヲ\u3099"), (0x30FE, "ヽ\u3099\nコト"),
   (0x3131, "ᄀ\nᄁ\nᆪ\nᄂ\nᆬ\nᆭ\nᄃ\nᄄ\nᄅ\nᆰ\nᆱ\nᆲ\nᆳ\nᆴ\nᆵ\nᄚ\nᄆ\nᄇ\nᄈ\nᄡ\nᄉ\nᄊ\nᄋ\nᄌ\nᄍ\nᄎ\nᄏ"),
   (0x314C, "ᄐ\nᄑ\nᄒ\nᅡ\nᅢ\nᅣ\nᅤ\nᅥ\nᅦ\nᅧ\nᅨ\nᅩ\nᅪ\nᅫ\nᅬ\nᅭ\nᅮ\nᅯ\nᅰ\nᅱ\nᅲ\nᅳ\nᅴ\nᅵ\nᅠ\nᄔ\nᄕ"),
   (0x3167, "ᇇ\nᇈ\nᇌ\nᇎ\nᇓ\nᇗ\nᇙ\nᄜ\nᇝ\nᇟ\nᄝ\nᄞ\nᄠ\nᄢ\nᄣ\nᄧ\nᄩ\nᄫ\nᄬ\nᄭ\nᄮ\nᄯ\nᄲ\nᄶ\nᅀ\nᅇ\nᅌ"),
   (0x3182, "ᇱ\nᇲ\nᅗ\nᅘ\nᅙ\nᆄ\nᆅ\nᆈ\nᆑ\nᆒ\nᆔ\nᆞ\nᆡ"),
   (0x3192, "一\n二\n三\n四\n上\n中\n下\n甲\n乙\n丙\n丁\n天\n地\n人"),
   (0x3200, "(ᄀ)\n(ᄂ)\n(ᄃ)\n(ᄅ)\n(ᄆ)\n(ᄇ)\n(ᄉ)\n(ᄋ)\n(ᄌ)\n(ᄎ)\n(ᄏ)\n(ᄐ)\n(ᄑ)\n(ᄒ)\n(가)\n(나)"),
   (0x3210, "(다)\n(라)\n(마)\n(바)\n(사)\n(아)\n(자)\n(차)\n(카)\n(타)\n(파)\n(하)\n(주)"),
   (0x3220, "(一)\n(二)\n(三)\n(四)\n(五)\n(六)\n(七)\n(八)\n(九)\n(十)\n(月)\n(火)\n(水)\n(木)\n(金)\n(土)"),
   (0x3230, "(日)\n(株)\n(有)\n(社)\n(名)\n(特)\n(財)\n(祝)\n(労)\n(代)\n(呼)\n(学)\n(監)\n(企)\n(資)\n(協)"),
   (0x3240, "(祭)\n(休)\n(自)\n(至)"),
   (0x3251, "21\n22\n23\n24\n25\n26\n27\n28\n29\n30\n31\n32\n33\n34\n35\nᄀ\nᄂ\nᄃ\nᄅ\nᄆ\nᄇ\nᄉ"),
   (0x3267, "ᄋ\nᄌ\nᄎ\nᄏ\nᄐ\nᄑ\nᄒ\n가\n나\n다\n라\n마\n바\n사\n아\n자\n차\n카\n타\n파\n하"),
   (0x3280, "一\n二\n三\n四\n五\n六\n七\n八\n九\n十\n月\n火\n水\n木\n金\n土\n日\n株\n有\n社\n名\n特\n財\n祝\n労\n秘\n男"),
   (0x329B, "女\n適\n優\n印\n注\n項\n休\n写\n正\n上\n中\n下\n左\n右\n医\n宗\n学\n監\n企\n資\n協\n夜\n36\n37\n38\n39"),
   (0x32B5, "40\n41\n42\n43\n44\n45\n46\n47\n48\n49\n50\n1月\n2月\n3月\n4月\n5月\n6月\n7月\n8月\n9月"),
   (0x32C9, "10月\n11月\n12月"),
   (0x32D0, "ア\nイ\nウ\nエ\nオ\nカ\nキ\nク\nケ\nコ\nサ\nシ\nス\nセ\nソ\nタ\nチ\nツ\nテ\nト\nナ\nニ\nヌ\nネ\nノ\nハ\nヒ"),
   (0x32EB, "フ\nヘ\nホ\nマ\nミ\nム\nメ\nモ\nヤ\nユ\nヨ\nラ\nリ\nル\nレ\nロ\nワ\nヰ\nヱ\nヲ"),
   (0x3300, "アハ\u309aート\nアルファ\nアンヘ\u309aア\nアール\nイニンク\u3099\nインチ\nウォン\nエスクート\u3099\nエーカー\nオンス"),
   (0x330A, "オーム\nカイリ\nカラット\nカロリー\nカ\u3099ロン\nカ\u3099ンマ\nキ\u3099カ\u3099\nキ\u3099ニー\nキュリー"),
   (0x3313, "キ\u3099ルタ\u3099ー\nキロ\nキロク\u3099ラム\nキロメートル\nキロワット\nク\u3099ラム\nク\u3099ラムトン"),
   (0x331A, "クルセ\u3099イロ\nクローネ\nケース\nコルナ\nコーホ\u309a\nサイクル\nサンチーム\nシリンク\u3099\nセンチ\nセント"),
   (0x3324, "タ\u3099ース\nテ\u3099シ\nト\u3099ル\nトン\nナノ\nノット\nハイツ\nハ\u309aーセント\nハ\u309aーツ"),
   (0x332D, "ハ\u3099ーレル\nヒ\u309aアストル\nヒ\u309aクル\nヒ\u309aコ\nヒ\u3099ル\nファラット\u3099\nフィート"),
   (0x3334, "フ\u3099ッシェル\nフラン\nヘクタール\nヘ\u309aソ\nヘ\u309aニヒ\nヘルツ\nヘ\u309aンス\nヘ\u309aーシ\u3099"),
   (0x333C, "ヘ\u3099ータ\nホ\u309aイント\nホ\u3099ルト\nホン\nホ\u309aント\u3099\nホール\nホーン\nマイクロ\nマイル\nマッハ"),
   (0x3346, "マルク\nマンション\nミクロン\nミリ\nミリハ\u3099ール\nメカ\u3099\nメカ\u3099トン\nメートル\nヤート\u3099\nヤール"),
   (0x3350, "ユアン\nリットル\nリラ\nルヒ\u309aー\nルーフ\u3099ル\nレム\nレントケ\u3099ン\nワット\n0点\n1点\n2点\n3点\n4点"),
   (0x335D, "5点\n6点\n7点\n8点\n9点\n10点\n11点\n12点\n13点\n14点\n15点\n16点\n17点\n18点\n19点\n20点\n21点"),
   (0x336E, "22点\n23点\n24点\nhPa\nda\nAU\nbar\noV\npc"),
   (0x337B, "平成\n昭和\n大正\n明治\n株式会社\npA\nnA\nμA\nmA\nkA\nKB\nMB\nGB\ncal\nkcal\npF\nnF\nμF\nμg"),
   (0x338E, "mg\nkg\nHz\nkHz\nMHz\nGHz\nTHz\nμl\nml\ndl\nkl\nfm\nnm\nμm\nmm\ncm\nkm\nmm2\ncm2"),
   (0x33A1, "m2\nkm2\nmm3\ncm3\nm3\nkm3\nm∕s\nm∕s2\nPa\nkPa\nMPa\nGPa\nrad\nrad∕s\nrad∕s2\nps"),
   (0x33B1, "ns\nμs\nms\npV\nnV\nμV\nmV\nkV\nMV\npW\nnW\nμW\nmW\nkW\nMW\nkΩ\nMΩ\na.m.\nBq\ncc"),
   (0x33C5, "cd\nC∕kg\nCo.\ndB\nGy\nha\nHP\nin\nKK\nKM\nkt\nlm\nln\nlog\nlx\nmb\nmil\nmol\nPH"),
   (0x33D8, "p.m.\nPPM\nPR\nsr\nSv\nWb"),
   (0x33E0, "1日\n2日\n3日\n4日\n5日\n6日\n7日\n8日\n9日\n10日\n11日\n12日\n13日\n14日\n15日\n16日\n17日\n18日"),
   (0x33F2, "19日\n20日\n21日\n22日\n23日\n24日\n25日\n26日\n27日\n28日\n29日\n30日\n31日"),
   (0xF900, "豈\n更\n車\n賈\n滑\n串\n句\n龜\n龜\n契\n金\n喇\n奈\n懶\n癩\n羅\n蘿\n螺\n裸\n邏\n樂\n洛\n烙\n珞\n落\n酪\n駱"),
   (0xF91B, "亂\n卵\n欄\n爛\n蘭\n鸞\n嵐\n濫\n藍\n襤\n拉\n臘\n蠟\n廊\n朗\n浪\n狼\n郎\n來\n冷\n勞\n擄\n櫓\n爐\n盧\n老\n蘆"),
   (0xF936, "虜\n路\n露\n魯\n鷺\n碌\n祿\n綠\n菉\n錄\n鹿\n論\n壟\n弄\n籠\n聾\n牢\n磊\n賂\n雷\n壘\n屢\n樓\n淚\n漏\n累\n縷"),
   (0xF951, "陋\n勒\n肋\n凜\n凌\n稜\n綾\n菱\n陵\n讀\n拏\n樂\n諾\n丹\n寧\n怒\n率\n異\n北\n磻\n便\n復\n不\n泌\n數\n索\n參"),
   (0xF96C, "塞\n省\n葉\n說\n殺\n辰\n沈\n拾\n若\n掠\n略\n亮\n兩\n凉\n梁\n糧\n良\n諒\n量\n勵\n呂\n女\n廬\n旅\n濾\n礪\n閭"),
   (0xF987, "驪\n麗\n黎\n力\n曆\n歷\n轢\n年\n憐\n戀\n撚\n漣\n煉\n璉\n秊\n練\n聯\n輦\n蓮\n連\n鍊\n列\n劣\n咽\n烈\n裂\n說"),
   (0xF9A2, "廉\n念\n捻\n殮\n簾\n獵\n令\n囹\n寧\n嶺\n怜\n玲\n瑩\n羚\n聆\n鈴\n零\n靈\n領\n例\n禮\n醴\n隸\n惡\n了\n僚\n寮"),
   (0xF9BD, "尿\n料\n樂\n燎\n療\n蓼\n遼\n龍\n暈\n阮\n劉\n杻\n柳\n流\n溜\n琉\n留\n硫\n紐\n類\n六\n戮\n陸\n倫\n崙\n淪\n輪"),
   (0xF9D8, "律\n慄\n栗\n率\n隆\n利\n吏\n履\n易\n李\n梨\n泥\n理\n痢\n罹\n裏\n裡\n里\n離\n匿\n溺\n吝\n燐\n璘\n藺\n隣\n鱗"),
   (0xF9F3, "麟\n林\n淋\n臨\n立\n笠\n粒\n狀\n炙\n識\n什\n茶\n刺\n切\n度\n拓\n糖\n宅\n洞\n暴\n輻\n行\n降\n見\n廓\n兀\n嗀"),
   (0xFA10, "塚"), (0xFA12, "晴"), (0xFA15, "凞\n猪\n益\n礼\n神\n祥\n福\n靖\n精\n羽"), (0xFA20, "蘒"),
   (0xFA22, "諸"), (0xFA25, "逸\n都"), (0xFA2A, "飯\n飼\n館\n鶴"),
   (0xFA30, "侮\n僧\n免\n勉\n勤\n卑\n喝\n嘆\n器\n塀\n墨\n層\n屮\n悔\n慨\n憎\n懲\n敏\n既\n暑\n梅\n海\n渚\n漢\n煮\n爫\n琢"),
   (0xFA4B, "碑\n社\n祉\n祈\n祐\n祖\n祝\n禍\n禎\n穀\n突\n節\n練\n縉\n繁\n署\n者\n臭\n艹\n艹\n著\n褐\n視\n謁\n謹\n賓\n贈"),
   (0xFA66, "辶\n逸\n難\n響\n頻"), (0xFB00, "ff\nfi\nfl\nffi\nffl\nst\nst"),
   (0xFB13, "մն\nմե\nմի\nվն\nմխ"), (0xFB1D, "\u05d9\u05b4"),
   (0xFB1F, "\u05f2\u05b7\n\u05e2\n\u05d0\n\u05d3\n\u05d4\n\u05db\n\u05dc\n\u05dd\n\u05e8"),
   (0xFB28, "\u05ea\n+\n\u05e9\u05c1\n\u05e9\u05c2\n\u05e9\u05bc\u05c1\n\u05e9\u05bc\u05c2"),
   (0xFB2E, "\u05d0\u05b7\n\u05d0\u05b8\n\u05d0\u05bc\n\u05d1\u05bc\n\u05d2\u05bc"),
   (0xFB33, "\u05d3\u05bc\n\u05d4\u05bc\n\u05d5\u05bc\n\u05d6\u05bc"),
   (0xFB38, "\u05d8\u05bc\n\u05d9\u05bc\n\u05da\u05bc\n\u05db\u05bc\n\u05dc\u05bc"),
   (0xFB3E, "\u05de\u05bc"), (0xFB40, "\u05e0\u05bc\n\u05e1\u05bc"),
   (0xFB43, "\u05e3\u05bc\n\u05e4\u05bc"),
   (0xFB46, "\u05e6\u05bc\n\u05e7\u05bc\n\u05e8\u05bc\n\u05e9\u05bc\n\u05ea\u05bc"),
   (0xFB4B, "\u05d5\u05b9\n\u05d1\u05bf\n\u05db\u05bf\n\u05e4\u05bf\n\u05d0\u05dc\n\u0671"),
   (0xFB51, "\u0671\n\u067b\n\u067b\n\u067b\n\u067b\n\u067e\n\u067e\n\u067e\n\u067e\n\u0680"),
   (0xFB5B, "\u0680\n\u0680\n\u0680\n\u067a\n\u067a\n\u067a\n\u067a\n\u067f\n\u067f\n\u067f"),
   (0xFB65, "\u067f\n\u0679\n\u0679\n\u0679\n\u0679\n\u06a4\n\u06a4\n\u06a4\n\u06a4\n\u06a6"),
   (0xFB6F, "\u06a6\n\u06a6\n\u06a6\n\u0684\n\u0684\n\u0684\n\u0684\n\u0683\n\u0683\n\u0683"),
   (0xFB79, "\u0683\n\u0686\n\u0686\n\u0686\n\u0686\n\u0687\n\u0687\n\u0687\n\u0687\n\u068d"),
   (0xFB83, "\u068d\n\u068c\n\u068c\n\u068e\n\u068e\n\u0688\n\u0688\n\u0698\n\u0698\n\u0691"),
   (0xFB8D, "\u0691\n\u06a9\n\u06a9\n\u06a9\n\u06a9\n\u06af\n\u06af\n\u06af\n\u06af\n\u06b3"),
   (0xFB97, "\u06b3\n\u06b3\n\u06b3\n\u06b1\n\u06b1\n\u06b1\n\u06b1\n\u06ba\n\u06ba\n\u06bb"),
   (0xFBA1, "\u06bb\n\u06bb\n\u06bb\n\u06d5\u0654\n\u06d5\u0654\n\u06c1\n\u06c1\n\u06c1"),
   (0xFBA9, "\u06c1\n\u06be\n\u06be\n\u06be\n\u06be\n\u06d2\n\u06d2\n\u06d2\u0654"),
   (0xFBB1, "\u06d2\u0654"),
   (0xFBD3, "\u06ad\n\u06ad\n\u06ad\n\u06ad\n\u06c7\n\u06c7\n\u06c6\n\u06c6\n\u06c8\n\u06c8"),
   (0xFBDD, "\u06c7\u0674\n\u06cb\n\u06cb\n\u06c5\n\u06c5\n\u06c9\n\u06c9\n\u06d0\n\u06d0"),
   (0xFBE6, "\u06d0\n\u06d0\n\u0649\n\u0649\n\u064a\u0654\u0627\n\u064a\u0654\u0627"),
   (0xFBEC, "\u064a\u0654\u06d5\n\u064a\u0654\u06d5\n\u064a\u0654\u0648\n\u064a\u0654\u0648"),
   (0xFBF0, "\u064a\u0654\u06c7\n\u064a\u0654\u06c7\n\u064a\u0654\u06c6\n\u064a\u0654\u06c6"),
   (0xFBF4, "\u064a\u0654\u06c8\n\u064a\u0654\u06c8\n\u064a\u0654\u06d0\n\u064a\u0654\u06d0"),
   (0xFBF8, "\u064a\u0654\u06d0\n\u064a\u0654\u0649\n\u064a\u0654\u0649\n\u064a\u0654\u0649"),
   (0xFBFC, "\u06cc\n\u06cc\n\u06cc\n\u06cc\n\u064a\u0654\u062c\n\u064a\u0654\u062d"),
   (0xFC02, "\u064a\u0654\u0645\n\u064a\u0654\u0649\n\u064a\u0654\u064a\n\u0628\u062c"),
   (0xFC06, "\u0628\u062d\n\u0628\u062e\n\u0628\u0645\n\u0628\u0649\n\u0628\u064a"),
   (0xFC0B, "\u062a\u062c\n\u062a\u062d\n\u062a\u062e\n\u062a\u0645\n\u062a\u0649"),
   (0xFC10, "\u062a\u064a\n\u062b\u062c\n\u062b\u0645\n\u062b\u0649\n\u062b\u064a"),
   (0xFC15, "\u062c\u062d\n\u062c\u0645\n\u062d\u062c\n\u062d\u0645\n\u062e\u062c"),
   (0xFC1A, "\u062e\u062d\n\u062e\u0645\n\u0633\u062c\n\u0633\u062d\n\u0633\u062e"),
   (0xFC1F, "\u0633\u0645\n\u0635\u062d\n\u0635\u0645\n\u0636\u062c\n\u0636\u062d"),
   (0xFC24, "\u0636\u062e\n\u0636\u0645\n\u0637\u062d\n\u0637\u0645\n\u0638\u0645"),
   (0xFC29, "\u0639\u062c\n\u0639\u0645\n\u063a\u062c\n\u063a\u0645\n\u0641\u062c"),
   (0xFC2E, "\u0641\u062d\n\u0641\u062e\n\u0641\u0645\n\u0641\u0649\n\u0641\u064a"),
   (0xFC33, "\u0642\u062d\n\u0642\u0645\n\u0642\u0649\n\u0642\u064a\n\u0643\u0627"),
   (0xFC38, "\u0643\u062c\n\u0643\u062d\n\u0643\u062e\n\u0643\u0644\n\u0643\u0645"),
   (0xFC3D, "\u0643\u0649\n\u0643\u064a\n\u0644\u062c\n\u0644\u062d\n\u0644\u062e"),
   (0xFC42, "\u0644\u0645\n\u0644\u0649\n\u0644\u064a\n\u0645\u062c\n\u0645\u062d"),
   (0xFC47, "\u0645\u062e\n\u0645\u0645\n\u0645\u0649\n\u0645\u064a\n\u0646\u062c"),
   (0xFC4C, "\u0646\u062d\n\u0646\u062e\n\u0646\u0645\n\u0646\u0649\n\u0646\u064a"),
   (0xFC51, "\u0647\u062c\n\u0647\u0645\n\u0647\u0649\n\u0647\u064a\n\u064a\u062c"),
   (0xFC56, "\u064a\u062d\n\u064a\u062e\n\u064a\u0645\n\u064a\u0649\n\u064a\u064a"),
   (0xFC5B, "\u0630\u0670\n\u0631\u0670\n\u0649\u0670\n \u064c\u0651\n \u064d\u0651"),
   (0xFC60, " \u064e\u0651\n \u064f\u0651\n \u0650\u0651\n \u0651\u0670\n\u064a\u0654\u0631"),
   (0xFC65, "\u064a\u0654\u0632\n\u064a\u0654\u0645\n\u064a\u0654\u0646\n\u064a\u0654\u0649"),
   (0xFC69, "\u064a\u0654\u064a\n\u0628\u0631\n\u0628\u0632\n\u0628\u0645\n\u0628\u0646"),
   (0xFC6E, "\u0628\u0649\n\u0628\u064a\n\u062a\u0631\n\u062a\u0632\n\u062a\u0645"),
   (0xFC73, "\u062a\u0646\n\u062a\u0649\n\u062a\u064a\n\u062b\u0631\n\u062b\u0632"),
   (0xFC78, "\u062b\u0645\n\u062b\u0646\n\u062b\u0649\n\u062b\u064a\n\u0641\u0649"),
   (0xFC7D, "\u0641\u064a\n\u0642\u0649\n\u0642\u064a\n\u0643\u0627\n\u0643\u0644"),
   (0xFC82, "\u0643\u0645\n\u0643\u0649\n\u0643\u064a\n\u0644\u0645\n\u0644\u0649"),
   (0xFC87, "\u0644\u064a\n\u0645\u0627\n\u0645\u0645\n\u0646\u0631\n\u0646\u0632"),
   (0xFC8C, "\u0646\u0645\n\u0646\u0646\n\u0646\u0649\n\u0646\u064a\n\u0649\u0670"),
   (0xFC91, "\u064a\u0631\n\u064a\u0632\n\u064a\u0645\n\u064a\u0646\n\u064a\u0649"),
   (0xFC96, "\u064a\u064a\n\u064a\u0654\u062c\n\u064a\u0654\u062d\n\u064a\u0654\u062e"),
   (0xFC9A, "\u064a\u0654\u0645\n\u064a\u0654\u0647\n\u0628\u062c\n\u0628\u062d\n\u0628\u062e"),
   (0xFC9F, "\u0628\u0645\n\u0628\u0647\n\u062a\u062c\n\u062a\u062d\n\u062a\u062e"),
   (0xFCA4, "\u062a\u0645\n\u062a\u0647\n\u062b\u0645\n\u062c\u062d\n\u062c\u0645"),
   (0xFCA9, "\u062d\u062c\n\u062d\u0645\n\u062e\u062c\n\u062e\u0645\n\u0633\u062c"),
   (0xFCAE, "\u0633\u062d\n\u0633\u062e\n\u0633\u0645\n\u0635\u062d\n\u0635\u062e"),
   (0xFCB3, "\u0635\u0645\n\u0636\u062c\n\u0636\u062d\n\u0636\u062e\n\u0636\u0645"),
   (0xFCB8, "\u0637\u062d\n\u0638\u0645\n\u0639\u062c\n\u0639\u0645\n\u063a\u062c"),
   (0xFCBD, "\u063a\u0645\n\u0641\u062c\n\u0641\u062d\n\u0641\u062e\n\u0641\u0645"),
   (0xFCC2, "\u0642\u062d\n\u0642\u0645\n\u0643\u062c\n\u0643\u062d\n\u0643\u062e"),
   (0xFCC7, "\u0643\u0644\n\u0643\u0645\n\u0644\u062c\n\u0644\u062d\n\u0644\u062e"),
   (0xFCCC, "\u0644\u0645\n\u0644\u0647\n\u0645\u062c\n\u0645\u062d\n\u0645\u062e"),
   (0xFCD1, "\u0645\u0645\n\u0646\u062c\n\u0646\u062d\n\u0646\u062e\n\u0646\u0645"),
   (0xFCD6, "\u0646\u0647\n\u0647\u062c\n\u0647\u0645\n\u0647\u0670\n\u064a\u062c"),
   (0xFCDB, "\u064a\u062d\n\u064a\u062e\n\u064a\u0645\n\u064a\u0647\n\u064a\u0654\u0645"),
   (0xFCE0, "\u064a\u0654\u0647\n\u0628\u0645\n\u0628\u0647\n\u062a\u0645\n\u062a\u0647"),
   (0xFCE5, "\u062b\u0645\n\u062b\u0647\n\u0633\u0645\n\u0633\u0647\n\u0634\u0645"),
   (0xFCEA, "\u0634\u0647\n\u0643\u0644\n\u0643\u0645\n\u0644\u0645\n\u0646\u0645"),
   (0xFCEF, "\u0646\u0647\n\u064a\u0645\n\u064a\u0647\n\u0640\u064e\u0651\n\u0640\u064f\u0651"),
   (0xFCF4, "\u0640\u0650\u0651\n\u0637\u0649\n\u0637\u064a\n\u0639\u0649\n\u0639\u064a"),
   (0xFCF9, "\u063a\u0649\n\u063a\u064a\n\u0633\u0649\n\u0633\u064a\n\u0634\u0649"),
   (0xFCFE, "\u0634\u064a\n\u062d\u0649\n\u062d\u064a\n\u062c\u0649\n\u062c\u064a"),
   (0xFD03, "\u062e\u0649\n\u062e\u064a\n\u0635\u0649\n\u0635\u064a\n\u0636\u0649"),
   (0xFD08, "\u0636\u064a\n\u0634\u062c\n\u0634\u062d\n\u0634\u062e\n\u0634\u0645"),
   (0xFD0D, "\u0634\u0631\n\u0633\u0631\n\u0635\u0631\n\u0636\u0631\n\u0637\u0649"),
   (0xFD12, "\u0637\u064a\n\u0639\u0649\n\u0639\u064a\n\u063a\u0649\n\u063a\u064a"),
   (0xFD17, "\u0633\u0649\n\u0633\u064a\n\u0634\u0649\n\u0634\u064a\n\u062d\u0649"),
   (0xFD1C, "\u062d\u064a\n\u062c\u0649\n\u062c\u064a\n\u062e\u0649\n\u062e\u064a"),
   (0xFD21, "\u0635\u0649\n\u0635\u064a\n\u0636\u0649\n\u0636\u064a\n\u0634\u062c"),
   (0xFD26, "\u0634\u062d\n\u0634\u062e\n\u0634\u0645\n\u0634\u0631\n\u0633\u0631"),
   (0xFD2B, "\u0635\u0631\n\u0636\u0631\n\u0634\u062c\n\u0634\u062d\n\u0634\u062e"),
   (0xFD30, "\u0634\u0645\n\u0633\u0647\n\u0634\u0647\n\u0637\u0645\n\u0633\u062c"),
   (0xFD35, "\u0633\u062d\n\u0633\u062e\n\u0634\u062c\n\u0634\u062d\n\u0634\u062e"),
   (0xFD3A, "\u0637\u0645\n\u0638\u0645\n\u0627\u064b\n\u0627\u064b"),
   (0xFD50, "\u062a\u062c\u0645\n\u062a\u062d\u062c\n\u062a\u062d\u062c\n\u062a\u062d\u0645"),
   (0xFD54, "\u062a\u062e\u0645\n\u062a\u0645\u062c\n\u062a\u0645\u062d\n\u062a\u0645\u062e"),
   (0xFD58, "\u062c\u0645\u062d\n\u062c\u0645\u062d\n\u062d\u0645\u064a\n\u062d\u0645\u0649"),
   (0xFD5C, "\u0633\u062d\u062c\n\u0633\u062c\u062d\n\u0633\u062c\u0649\n\u0633\u0645\u062d"),
   (0xFD60, "\u0633\u0645\u062d\n\u0633\u0645\u062c\n\u0633\u0645\u0645\n\u0633\u0645\u0645"),
   (0xFD64, "\u0635\u062d\u062d\n\u0635\u062d\u062d\n\u0635\u0645\u0645\n\u0634\u062d\u0645"),
   (0xFD68, "\u0634\u062d\u0645\n\u0634\u062c\u064a\n\u0634\u0645\u062e\n\u0634\u0645\u062e"),
   (0xFD6C, "\u0634\u0645\u0645\n\u0634\u0645\u0645\n\u0636\u062d\u0649\n\u0636\u062e\u0645"),
   (0xFD70, "\u0636\u062e\u0645\n\u0637\u0645\u062d\n\u0637\u0645\u062d\n\u0637\u0645\u0645"),
   (0xFD74, "\u0637\u0645\u064a\n\u0639\u062c\u0645\n\u0639\u0645\u0645\n\u0639\u0645\u0645"),
   (0xFD78, "\u0639\u0645\u0649\n\u063a\u0645\u0645\n\u063a\u0645\u064a\n\u063a\u0645\u0649"),
   (0xFD7C, "\u0641\u062e\u0645\n\u0641\u062e\u0645\n\u0642\u0645\u062d\n\u0642\u0645\u0645"),
   (0xFD80, "\u0644\u062d\u0645\n\u0644\u062d\u064a\n\u0644\u062d\u0649\n\u0644\u062c\u062c"),
   (0xFD84, "\u0644\u062c\u062c\n\u0644\u062e\u0645\n\u0644\u062e\u0645\n\u0644\u0645\u062d"),
   (0xFD88, "\u0644\u0645\u062d\n\u0645\u062d\u062c\n\u0645\u062d\u0645\n\u0645\u062d\u064a"),
   (0xFD8C, "\u0645\u062c\u062d\n\u0645\u062c\u0645\n\u0645\u062e\u062c\n\u0645\u062e\u0645"),
   (0xFD92, "\u0645\u062c\u062e\n\u0647\u0645\u062c\n\u0647\u0645\u0645\n\u0646\u062d\u0645"),
   (0xFD96, "\u0646\u062d\u0649\n\u0646\u062c\u0645\n\u0646\u062c\u0645\n\u0646\u062c\u0649"),
   (0xFD9A, "\u0646\u0645\u064a\n\u0646\u0645\u0649\n\u064a\u0645\u0645\n\u064a\u0645\u0645"),
   (0xFD9E, "\u0628\u062e\u064a\n\u062a\u062c\u064a\n\u062a\u062c\u0649\n\u062a\u062e\u064a"),
   (0xFDA2, "\u062a\u062e\u0649\n\u062a\u0645\u064a\n\u062a\u0645\u0649\n\u062c\u0645\u064a"),
   (0xFDA6, "\u062c\u062d\u0649\n\u062c\u0645\u0649\n\u0633\u062e\u0649\n\u0635\u062d\u064a"),
   (0xFDAA, "\u0634\u062d\u064a\n\u0636\u062d\u064a\n\u0644\u062c\u064a\n\u0644\u0645\u064a"),
   (0xFDAE, "\u064a\u062d\u064a\n\u064a\u062c\u064a\n\u064a\u0645\u064a\n\u0645\u0645\u064a"),
   (0xFDB2, "\u0642\u0645\u064a\n\u0646\u062d\u064a\n\u0642\u0645\u062d\n\u0644\u062d\u0645"),
   (0xFDB6, "\u0639\u0645\u064a\n\u0643\u0645\u064a\n\u0646\u062c\u062d\n\u0645\u062e\u064a"),
   (0xFDBA, "\u0644\u062c\u0645\n\u0643\u0645\u0645\n\u0644\u062c\u0645\n\u0646\u062c\u062d"),
   (0xFDBE, "\u062c\u062d\u064a\n\u062d\u062c\u064a\n\u0645\u062c\u064a\n\u0641\u0645\u064a"),
   (0xFDC2, "\u0628\u062d\u064a\n\u0643\u0645\u0645\n\u0639\u062c\u0645\n\u0635\u0645\u0645"),
   (0xFDC6, "\u0633\u062e\u064a\n\u0646\u062c\u064a"),
   (0xFDF0, "\u0635\u0644\u06d2\n\u0642\u0644\u06d2\n\u0627\u0644\u0644\u0647"),
   (0xFDF3, "\u0627\u0643\u0628\u0631\n\u0645\u062d\u0645\u062f\n\u0635\u0644\u0639\u0645"),
   (0xFDF6, "\u0631\u0633\u0648\u0644\n\u0639\u0644\u064a\u0647\n\u0648\u0633\u0644\u0645"),
   (0xFDF9, "\u0635\u0644\u0649"),
   (0xFDFA, "\u0635\u0644\u0649 \u0627\u0644\u0644\u0647 \u0639\u0644\u064a\u0647 \u0648\u0633\u0644\u0645"),
   (0xFDFB, "\u062c\u0644 \u062c\u0644\u0627\u0644\u0647\n\u0631\u06cc\u0627\u0644"),
   (0xFE30, "..\n—\n–\n_\n_\n(\n)\n\x7b\n\x7d\n〔\n〕\n【\n】\n《\n》\n〈\n〉\n「\n」\n『\n』"),
   (0xFE49, " \u0305\n \u0305\n \u0305\n \u0305\n_\n_\n_\n,\n、\n."),
   (0xFE54, ";\n:\n?\n!\n—\n(\n)\n\x7b\n\x7d\n〔\n〕\n#\n&\n*\n+\n-\n<\n>\n="),
   (0xFE68, "\\\n$\n%\n@"), (0xFE70, " \u064b\n\u0640\u064b\n \u064c"), (0xFE74, " \u064d"),
   (0xFE76, " \u064e\n\u0640\u064e\n \u064f\n\u0640\u064f\n \u0650\n\u0640\u0650\n \u0651"),
   (0xFE7D, "\u0640\u0651\n \u0652\n\u0640\u0652\n\u0621\n\u0627\u0653\n\u0627\u0653"),
   (0xFE83, "\u0627\u0654\n\u0627\u0654\n\u0648\u0654\n\u0648\u0654\n\u0627\u0655"),
   (0xFE88, "\u0627\u0655\n\u064a\u0654\n\u064a\u0654\n\u064a\u0654\n\u064a\u0654\n\u0627"),
   (0xFE8E, "\u0627\n\u0628\n\u0628\n\u0628\n\u0628\n\u0629\n\u0629\n\u062a\n\u062a\n\u062a"),
   (0xFE98, "\u062a\n\u062b\n\u062b\n\u062b\n\u062b\n\u062c\n\u062c\n\u062c\n\u062c\n\u062d"),
   (0xFEA2, "\u062d\n\u062d\n\u062d\n\u062e\n\u062e\n\u062e\n\u062e\n\u062f\n\u062f\n\u0630"),
   (0xFEAC, "\u0630\n\u0631\n\u0631\n\u0632\n\u0632\n\u0633\n\u0633\n\u0633\n\u0633\n\u0634"),
   (0xFEB6, "\u0634\n\u0634\n\u0634\n\u0635\n\u0635\n\u0635\n\u0635\n\u0636\n\u0636\n\u0636"),
   (0xFEC0, "\u0636\n\u0637\n\u0637\n\u0637\n\u0637\n\u0638\n\u0638\n\u0638\n\u0638\n\u0639"),
   (0xFECA, "\u0639\n\u0639\n\u0639\n\u063a\n\u063a\n\u063a\n\u063a\n\u0641\n\u0641\n\u0641"),
   (0xFED4, "\u0641\n\u0642\n\u0642\n\u0642\n\u0642\n\u0643\n\u0643\n\u0643\n\u0643\n\u0644"),
   (0xFEDE, "\u0644\n\u0644\n\u0644\n\u0645\n\u0645\n\u0645\n\u0645\n\u0646\n\u0646\n\u0646"),
   (0xFEE8, "\u0646\n\u0647\n\u0647\n\u0647\n\u0647\n\u0648\n\u0648\n\u0649\n\u0649\n\u064a"),
   (0xFEF2, "\u064a\n\u064a\n\u064a\n\u0644\u0627\u0653\n\u0644\u0627\u0653"),
   (0xFEF7, "\u0644\u0627\u0654\n\u0644\u0627\u0654\n\u0644\u0627\u0655\n\u0644\u0627\u0655"),
   (0xFEFB, "\u0644\u0627\n\u0644\u0627"),
   (0xFF01, "!\n\"\n#\n$\n%\n&\n'\n(\n)\n*\n+\n,\n-\n.\n/\n0\n1\n2\n3\n4\n5\n6\n7\n8\n9\n:\n;"),
   (0xFF1C, "<\n=\n>\n?\n@\nA\nB\nC\nD\nE\nF\nG\nH\nI\nJ\nK\nL\nM\nN\nO\nP\nQ\nR\nS\nT\nU\nV"),
   (0xFF37, "W\nX\nY\nZ\n[\n\\\n]\n^\n_\n\x60\na\nb\nc\nd\ne\nf\ng\nh\ni\nj\nk\nl\nm\nn\no\np"),
   (0xFF51, "q\nr\ns\nt\nu\nv\nw\nx\ny\nz\n\x7b\n|\n\x7d\n~\n⦅\n⦆\n。\n「\n」\n、\n・\nヲ\nァ\nィ\nゥ"),
   (0xFF6A, "ェ\nォ\nャ\nュ\nョ\nッ\nー\nア\nイ\nウ\nエ\nオ\nカ\nキ\nク\nケ\nコ\nサ\nシ\nス\nセ\nソ\nタ\nチ\nツ\nテ\nト"),
   (0xFF85, "ナ\nニ\nヌ\nネ\nノ\nハ\nヒ\nフ\nヘ\nホ\nマ\nミ\nム\nメ\nモ\nヤ\nユ\nヨ\nラ\nリ\nル\nレ\nロ\nワ\nン\n\u3099"),
   (0xFF9F, "\u309a\nᅠ\nᄀ\nᄁ\nᆪ\nᄂ\nᆬ\nᆭ\nᄃ\nᄄ\nᄅ\nᆰ\nᆱ\nᆲ\nᆳ\nᆴ\nᆵ\nᄚ\nᄆ\nᄇ\nᄈ\nᄡ\nᄉ\nᄊ\nᄋ\nᄌ"),
   (0xFFB9, "ᄍ\nᄎ\nᄏ\nᄐ\nᄑ\nᄒ"), (0xFFC2, "ᅡ\nᅢ\nᅣ\nᅤ\nᅥ\nᅦ"), (0xFFCA, "ᅧ\nᅨ\nᅩ\nᅪ\nᅫ\nᅬ"),
   (0xFFD2, "ᅭ\nᅮ\nᅯ\nᅰ\nᅱ\nᅲ"), (0xFFDA, "ᅳ\nᅴ\nᅵ"), (0xFFE0, "¢\n£\n¬\n \u0304\n¦\n¥\n₩"),
   (0xFFE8, "│\n←\n↑\n→\n↓\n■\n○"), (0x1D15E, "𝅗𝅥\n𝅘𝅥\n𝅘𝅥𝅮\n𝅘𝅥𝅯\n𝅘𝅥𝅰\n𝅘𝅥𝅱\n𝅘𝅥𝅲"),
   (0x1D1BB, "𝆹𝅥\n𝆺𝅥\n𝆹𝅥𝅮\n𝆺𝅥𝅮\n𝆹𝅥𝅯\n𝆺𝅥𝅯"),
   (0x1D400, "A\nB\nC\nD\nE\nF\nG\nH\nI\nJ\nK\nL\nM\nN\nO\nP\nQ\nR\nS\nT\nU\nV\nW\nX\nY\nZ\na"),
   (0x1D41B, "b\nc\nd\ne\nf\ng\nh\ni\nj\nk\nl\nm\nn\no\np\nq\nr\ns\nt\nu\nv\nw\nx\ny\nz\nA\nB"),
   (0x1D436, "C\nD\nE\nF\nG\nH\nI\nJ\nK\nL\nM\nN\nO\nP\nQ\nR\nS\nT\nU\nV\nW\nX\nY\nZ\na\nb\nc"),
   (0x1D451, "d\ne\nf\ng"),
   (0x1D456, "i\nj\nk\nl\nm\nn\no\np\nq\nr\ns\nt\nu\nv\nw\nx\ny\nz\nA\nB\nC\nD\nE\nF\nG\nH\nI"),
   (0x1D471, "J\nK\nL\nM\nN\nO\nP\nQ\nR\nS\nT\nU\nV\nW\nX\nY\nZ\na\nb\nc\nd\ne\nf\ng\nh\ni\nj"),
   (0x1D48C, "k\nl\nm\nn\no\np\nq\nr\ns\nt\nu\nv\nw\nx\ny\nz\nA"), (0x1D49E, "C\nD"),
   (0x1D4A2, "G"), (0x1D4A5, "J\nK"), (0x1D4A9, "N\nO\nP\nQ"),
   (0x1D4AE, "S\nT\nU\nV\nW\nX\nY\nZ\na\nb\nc\nd"), (0x1D4BB, "f"), (0x1D4BD, "h\ni\nj\nk"),
   (0x1D4C2, "m\nn"),
   (0x1D4C5, "p\nq\nr\ns\nt\nu\nv\nw\nx\ny\nz\nA\nB\nC\nD\nE\nF\nG\nH\nI\nJ\nK\nL\nM\nN\nO\nP"),
   (0x1D4E0, "Q\nR\nS\nT\nU\nV\nW\nX\nY\nZ\na\nb\nc\nd\ne\nf\ng\nh\ni\nj\nk\nl\nm\nn\no\np\nq"),
   (0x1D4FB, "r\ns\nt\nu\nv\nw\nx\ny\nz\nA\nB"), (0x1D507, "D\nE\nF\nG"),
   (0x1D50D, "J\nK\nL\nM\nN\nO\nP\nQ"), (0x1D516, "S\nT\nU\nV\nW\nX\nY"),
   (0x1D51E, "a\nb\nc\nd\ne\nf\ng\nh\ni\nj\nk\nl\nm\nn\no\np\nq\nr\ns\nt\nu\nv\nw\nx\ny\nz\nA"),
   (0x1D539, "B"), (0x1D53B, "D\nE\nF\nG"), (0x1D540, "I\nJ\nK\nL\nM"), (0x1D546, "O"),
   (0x1D54A, "S\nT\nU\nV\nW\nX\nY"),
   (0x1D552, "a\nb\nc\nd\ne\nf\ng\nh\ni\nj\nk\nl\nm\nn\no\np\nq\nr\ns\nt\nu\nv\nw\nx\ny\nz\nA"),
   (0x1D56D, "B\nC\nD\nE\nF\nG\nH\nI\nJ\nK\nL\nM\nN\nO\nP\nQ\nR\nS\nT\nU\nV\nW\nX\nY\nZ\na\nb"),
   (0x1D588, "c\nd\ne\nf\ng\nh\ni\nj\nk\nl\nm\nn\no\np\nq\nr\ns\nt\nu\nv\nw\nx\ny\nz\nA\nB\nC"),
   (0x1D5A3, "D\nE\nF\nG\nH\nI\nJ\nK\nL\nM\nN\nO\nP\nQ\nR\nS\nT\nU\nV\nW\nX\nY\nZ\na\nb\nc\nd"),
   (0x1D5BE, "e\nf\ng\nh\ni\nj\nk\nl\nm\nn\no\np\nq\nr\ns\nt\nu\nv\nw\nx\ny\nz\nA\nB\nC\nD\nE"),
   (0x1D5D9, "F\nG\nH\nI\nJ\nK\nL\nM\nN\nO\nP\nQ\nR\nS\nT\nU\nV\nW\nX\nY\nZ\na\nb\nc\nd\ne\nf"),
   (0x1D5F4, "g\nh\ni\nj\nk\nl\nm\nn\no\np\nq\nr\ns\nt\nu\nv\nw\nx\ny\nz\nA\nB\nC\nD\nE\nF\nG"),
   (0x1D60F, "H\nI\nJ\nK\nL\nM\nN\nO\nP\nQ\nR\nS\nT\nU\nV\nW\nX\nY\nZ\na\nb\nc\nd\ne\nf\ng\nh"),
   (0x1D62A, "i\nj\nk\nl\nm\nn\no\np\nq\nr\ns\nt\nu\nv\nw\nx\ny\nz\nA\nB\nC\nD\nE\nF\nG\nH\nI"),
   (0x1D645, "J\nK\nL\nM\nN\nO\nP\nQ\nR\nS\nT\nU\nV\nW\nX\nY\nZ\na\nb\nc\nd\ne\nf\ng\nh\ni\nj"),
   (0x1D660, "k\nl\nm\nn\no\np\nq\nr\ns\nt\nu\nv\nw\nx\ny\nz\nA\nB\nC\nD\nE\nF\nG\nH\nI\nJ\nK"),
   (0x1D67B, "L\nM\nN\nO\nP\nQ\nR\nS\nT\nU\nV\nW\nX\nY\nZ\na\nb\nc\nd\ne\nf\ng\nh\ni\nj\nk\nl"),
   (0x1D696, "m\nn\no\np\nq\nr\ns\nt\nu\nv\nw\nx\ny\nz"),
   (0x1D6A8, "Α\nΒ\nΓ\nΔ\nΕ\nΖ\nΗ\nΘ\nΙ\nΚ\nΛ\nΜ\nΝ\nΞ\nΟ\nΠ\nΡ\nΘ\nΣ\nΤ\nΥ\nΦ\nΧ\nΨ\nΩ\n∇\nα"),
   (0x1D6C3, "β\nγ\nδ\nε\nζ\nη\nθ\nι\nκ\nλ\nμ\nν\nξ\nο\nπ\nρ\nς\nσ\nτ\nυ\nφ\nχ\nψ\nω\n∂\nε\nθ"),
   (0x1D6DE, "κ\nφ\nρ\nπ\nΑ\nΒ\nΓ\nΔ\nΕ\nΖ\nΗ\nΘ\nΙ\nΚ\nΛ\nΜ\nΝ\nΞ\nΟ\nΠ\nΡ\nΘ\nΣ\nΤ\nΥ\nΦ\nΧ"),
   (0x1D6F9, "Ψ\nΩ\n∇\nα\nβ\nγ\nδ\nε\nζ\nη\nθ\nι\nκ\nλ\nμ\nν\nξ\nο\nπ\nρ\nς\nσ\nτ\nυ\nφ\nχ\nψ"),
   (0x1D714, "ω\n∂\nε\nθ\nκ\nφ\nρ\nπ\nΑ\nΒ\nΓ\nΔ\nΕ\nΖ\nΗ\nΘ\nΙ\nΚ\nΛ\nΜ\nΝ\nΞ\nΟ\nΠ\nΡ\nΘ\nΣ"),
   (0x1D72F, "Τ\nΥ\nΦ\nΧ\nΨ\nΩ\n∇\nα\nβ\nγ\nδ\nε\nζ\nη\nθ\nι\nκ\nλ\nμ\nν\nξ\nο\nπ\nρ\nς\nσ\nτ"),
   (0x1D74A, "υ\nφ\nχ\nψ\nω\n∂\nε\nθ\nκ\nφ\nρ\nπ\nΑ\nΒ\nΓ\nΔ\nΕ\nΖ\nΗ\nΘ\nΙ\nΚ\nΛ\nΜ\nΝ\nΞ\nΟ"),
   (0x1D765, "Π\nΡ\nΘ\nΣ\nΤ\nΥ\nΦ\nΧ\nΨ\nΩ\n∇\nα\nβ\nγ\nδ\nε\nζ\nη\nθ\nι\nκ\nλ\nμ\nν\nξ\nο\nπ"),
   (0x1D780, "ρ\nς\nσ\nτ\nυ\nφ\nχ\nψ\nω\n∂\nε\nθ\nκ\nφ\nρ\nπ\nΑ\nΒ\nΓ\nΔ\nΕ\nΖ\nΗ\nΘ\nΙ\nΚ\nΛ"),
   (0x1D79B, "Μ\nΝ\nΞ\nΟ\nΠ\nΡ\nΘ\nΣ\nΤ\nΥ\nΦ\nΧ\nΨ\nΩ\n∇\nα\nβ\nγ\nδ\nε\nζ\nη\nθ\nι\nκ\nλ\nμ"),
   (0x1D7B6, "ν\nξ\nο\nπ\nρ\nς\nσ\nτ\nυ\nφ\nχ\nψ\nω\n∂\nε\nθ\nκ\nφ\nρ\nπ"),
   (0x1D7CE, "0\n1\n2\n3\n4\n5\n6\n7\n8\n9\n0\n1\n2\n3\n4\n5\n6\n7\n8\n9\n0\n1\n2\n3\n4\n5\n6"),
   (0x1D7E9, "7\n8\n9\n0\n1\n2\n3\n4\n5\n6\n7\n8\n9\n0\n1\n2\n3\n4\n5\n6\n7\n8\n9"),
   (0x2F800, "丽\n丸\n乁\n𠄢\n你\n侮\n侻\n倂\n偺\n備\n僧\n像\n㒞\n𠘺\n免\n兔\n兤\n具\n𠔜\n㒹\n內\n再\n𠕋\n冗\n冤\n仌\n冬"),
   (0x2F81B, "况\n𩇟\n凵\n刃\n㓟\n刻\n剆\n割\n剷\n㔕\n勇\n勉\n勤\n勺\n包\n匆\n北\n卉\n卑\n博\n即\n卽\n卿\n卿\n卿\n𠨬\n灰"),
   (0x2F836, "及\n叟\n𠭣\n叫\n叱\n吆\n咞\n吸\n呈\n周\n咢\n哶\n唐\n啓\n啣\n善\n善\n喙\n喫\n喳\n嗂\n圖\n嘆\n圗\n噑\n噴\n切"),
   (0x2F851, "壮\n城\n埴\n堍\n型\n堲\n報\n墬\n𡓤\n売\n壷\n夆\n多\n夢\n奢\n𡚨\n𡛪\n姬\n娛\n娧\n姘\n婦\n㛮\n𡍪\n嬈\n嬾\n嬾"),
   (0x2F86C, "𡧈\n寃\n寘\n寧\n寳\n𡬘\n寿\n将\n弳\n尢\n㞁\n屠\n屮\n峀\n岍\n𡷤\n嵃\n𡷦\n嵮\n嵫\n嵼\n巡\n巢\n㠯\n巽\n帨\n帽"),
   (0x2F887, "幩\n㡢\n𢆃\n㡼\n庰\n庳\n庶\n廊\n𪎒\n廾\n𢌱\n𢌱\n舁\n弢\n弢\n㣇\n𣊸\n𦇚\n形\n彫\n㣣\n徚\n忍\n志\n忹\n悁\n㤺"),
   (0x2F8A2, "㤜\n悔\n𢛔\n惇\n慈\n慌\n慎\n慌\n慺\n憎\n憲\n憤\n憯\n懞\n懲\n懶\n成\n戛\n扝\n抱\n拔\n捐\n𢬌\n挽\n拼\n捨\n掃"),
   (0x2F8BD, "揤\n𢯱\n搢\n揅\n掩\n㨮\n摩\n摾\n撝\n摷\n㩬\n敏\n敬\n𣀊\n旣\n書\n晉\n㬙\n暑\n㬈\n㫤\n冒\n冕\n最\n暜\n肭\n䏙"),
   (0x2F8D8, "朗\n望\n朡\n杞\n杓\n𣏃\n㭉\n柺\n枅\n桒\n梅\n𣑭\n梎\n栟\n椔\n㮝\n楂\n榣\n槪\n檨\n𣚣\n櫛\n㰘\n次\n𣢧\n歔\n㱎"),
   (0x2F8F3, "歲\n殟\n殺\n殻\n𣪍\n𡴋\n𣫺\n汎\n𣲼\n沿\n泍\n汧\n洖\n派\n海\n流\n浩\n浸\n涅\n𣴞\n洴\n港\n湮\n㴳\n滋\n滇\n𣻑"),
   (0x2F90E, "淹\n潮\n𣽞\n𣾎\n濆\n瀹\n瀞\n瀛\n㶖\n灊\n災\n灷\n炭\n𠔥\n煅\n𤉣\n熜\n䎫\n爨\n爵\n牐\n𤘈\n犀\n犕\n𤜵\n𤠔\n獺"),
   (0x2F929, "王\n㺬\n玥\n㺸\n㺸\n瑇\n瑜\n瑱\n璅\n瓊\n㼛\n甤\n𤰶\n甾\n𤲒\n異\n𢆟\n瘐\n𤾡\n𤾸\n𥁄\n㿼\n䀈\n直\n𥃳\n𥃲\n𥄙"),
   (0x2F944, "𥄳\n眞\n真\n真\n睊\n䀹\n瞋\n䁆\n䂖\n𥐝\n硎\n碌\n磌\n䃣\n𥘦\n祖\n𥚚\n𥛅\n福\n秫\n䄯\n穀\n穊\n穏\n𥥼\n𥪧\n𥪧"),
   (0x2F95F, "窮\n䈂\n𥮫\n篆\n築\n䈧\n𥲀\n糒\n䊠\n糨\n糣\n紀\n𥾆\n絣\n䌁\n緇\n縂\n繅\n䌴\n𦈨\n𦉇\n䍙\n𦋙\n罺\n𦌾\n羕\n翺"),
   (0x2F97A, "者\n𦓚\n𦔣\n聠\n𦖨\n聰\n𣍟\n䏕\n育\n脃\n䐋\n脾\n媵\n𦞧\n𦞵\n𣎓\n𣎜\n舁\n舄\n辞\n䑫\n芑\n芋\n芝\n劳\n花\n芳"),
   (0x2F995, "芽\n苦\n𦬼\n若\n茝\n荣\n莭\n茣\n莽\n菧\n著\n荓\n菊\n菌\n菜\n𦰶\n𦵫\n𦳕\n䔫\n蓱\n蓳\n蔖\n𧏊\n蕤\n𦼬\n䕝\n䕡"),
   (0x2F9B0, "𦾱\n𧃒\n䕫\n虐\n虜\n虧\n虩\n蚩\n蚈\n蜎\n蛢\n蝹\n蜨\n蝫\n螆\n䵗\n蟡\n蠁\n䗹\n衠\n衣\n𧙧\n裗\n裞\n䘵\n裺\n㒻"),
   (0x2F9CB, "𧢮\n𧥦\n䚾\n䛇\n誠\n諭\n變\n豕\n𧲨\n貫\n賁\n贛\n起\n𧼯\n𠠄\n跋\n趼\n跰\n𠣞\n軔\n輸\n𨗒\n𨗭\n邔\n郱\n鄑\n𨜮"),
   (0x2F9E6, "鄛\n鈸\n鋗\n鋘\n鉼\n鏹\n鐕\n𨯺\n開\n䦕\n閷\n𨵷\n䧦\n雃\n嶲\n霣\n𩅅\n𩈚\n䩮\n䩶\n韠\n𩐊\n䪲\n𩒖\n頋\n頋\n頩"),
   (0x2FA01, "𩖶\n飢\n䬳\n餩\n馧\n駂\n駾\n䯎\n𩬰\n鬒\n鱀\n鳽\n䳎\n䳭\n鵧\n𪃎\n䳸\n𪄅\n𪈎\n𪊑\n麻\n䵖\n黹\n黾\n鼅\n鼏\n鼖"),
   (0x2FA1C, "鼻\n𪘀")]

/-- Pairs of characters, each followed by the character that is equivalent to it. -/
def compositionRows : List String :=
  ["A\u0300ÀA\u0301ÁA\u0302ÂA\u0303ÃA\u0308ÄA\u030aÅC\u0327ÇE\u0300ÈE\u0301ÉE\u0302ÊE\u0308Ë",
   "I\u0300ÌI\u0301ÍI\u0302ÎI\u0308ÏN\u0303ÑO\u0300ÒO\u0301ÓO\u0302ÔO\u0303ÕO\u0308ÖU\u0300Ù",
   "U\u0301ÚU\u0302ÛU\u0308ÜY\u0301Ýa\u0300àa\u0301áa\u0302âa\u0303ãa\u0308äa\u030aåc\u0327ç",
   "e\u0300èe\u0301ée\u0302êe\u0308ëi\u0300ìi\u0301íi\u0302îi\u0308ïn\u0303ño\u0300òo\u0301ó",
   "o\u0302ôo\u0303õo\u0308öu\u0300ùu\u0301úu\u0302ûu\u0308üy\u0301ýy\u0308ÿA\u0304Āa\u0304ā",
   "A\u0306Ăa\u0306ăA\u0328Ąa\u0328ąC\u0301Ćc\u0301ćC\u0302Ĉc\u0302ĉC\u0307Ċc\u0307ċC\u030cČ",
   "c\u030cčD\u030cĎd\u030cďE\u0304Ēe\u0304ēE\u0306Ĕe\u0306ĕE\u0307Ėe\u0307ėE\u0328Ęe\u0328ę",
   "E\u030cĚe\u030cěG\u0302Ĝg\u0302ĝG\u0306Ğg\u0306ğG\u0307Ġg\u0307ġG\u0327Ģg\u0327ģH\u0302Ĥ",
   "h\u0302ĥI\u0303Ĩi\u0303ĩI\u0304Īi\u0304īI\u0306Ĭi\u0306ĭI\u0328Įi\u0328įI\u0307İJ\u0302Ĵ",
   "j\u0302ĵK\u0327Ķk\u0327ķL\u0301Ĺl\u0301ĺL\u0327Ļl\u0327ļL\u030cĽl\u030cľN\u0301Ńn\u0301ń",
   "N\u0327Ņn\u0327ņN\u030cŇn\u030cňO\u0304Ōo\u0304ōO\u0306Ŏo\u0306ŏO\u030bŐo\u030bőR\u0301Ŕ",
   "r\u0301ŕR\u0327Ŗr\u0327ŗR\u030cŘr\u030cřS\u0301Śs\u0301śS\u0302Ŝs\u0302ŝS\u0327Şs\u0327ş",
   "S\u030cŠs\u030cšT\u0327Ţt\u0327ţT\u030cŤt\u030cťU\u0303Ũu\u0303ũU\u0304Ūu\u0304ūU\u0306Ŭ",
   "u\u0306ŭU\u030aŮu\u030aůU\u030bŰu\u030bűU\u0328Ųu\u0328ųW\u0302Ŵw\u0302ŵY\u0302Ŷy\u0302ŷ",
   "Y\u0308ŸZ\u0301Źz\u0301źZ\u0307Żz\u0307żZ\u030cŽz\u030cžO\u031bƠo\u031bơU\u031bƯu\u031bư",
   "A\u030cǍa\u030cǎI\u030cǏi\u030cǐO\u030cǑo\u030cǒU\u030cǓu\u030cǔÜ\u0304Ǖü\u0304ǖÜ\u0301Ǘ",
   "ü\u0301ǘÜ\u030cǙü\u030cǚÜ\u0300Ǜü\u0300ǜÄ\u0304Ǟä\u0304ǟȦ\u0304Ǡȧ\u0304ǡÆ\u0304Ǣæ\u0304ǣ",
   "G\u030cǦg\u030cǧK\u030cǨk\u030cǩO\u0328Ǫo\u0328ǫǪ\u0304Ǭǫ\u0304ǭƷ\u030cǮʒ\u030cǯj\u030cǰ",
   "G\u0301Ǵg\u0301ǵN\u0300Ǹn\u0300ǹÅ\u0301Ǻå\u0301ǻÆ\u0301Ǽæ\u0301ǽØ\u0301Ǿø\u0301ǿA\u030fȀ",
   "a\u030fȁA\u0311Ȃa\u0311ȃE\u030fȄe\u030fȅE\u0311Ȇe\u0311ȇI\u030fȈi\u030fȉI\u0311Ȋi\u0311ȋ",
   "O\u030fȌo\u030fȍO\u0311Ȏo\u0311ȏR\u030fȐr\u030fȑR\u0311Ȓr\u0311ȓU\u030fȔu\u030fȕU\u0311Ȗ",
   "u\u0311ȗS\u0326Șs\u0326șT\u0326Țt\u0326țH\u030cȞh\u030cȟA\u0307Ȧa\u0307ȧE\u0327Ȩe\u0327ȩ",
   "Ö\u0304Ȫö\u0304ȫÕ\u0304Ȭõ\u0304ȭO\u0307Ȯo\u0307ȯȮ\u0304Ȱȯ\u0304ȱY\u0304Ȳy\u0304ȳ¨\u0301΅",
   "Α\u0301ΆΕ\u0301ΈΗ\u0301ΉΙ\u0301ΊΟ\u0301ΌΥ\u0301ΎΩ\u0301Ώϊ\u0301ΐΙ\u0308ΪΥ\u0308Ϋα\u0301ά",
   "ε\u0301έη\u0301ήι\u0301ίϋ\u0301ΰι\u0308ϊυ\u0308ϋο\u0301όυ\u0301ύω\u0301ώϒ\u0301ϓϒ\u0308ϔ",
   "Е\u0300ЀЕ\u0308ЁГ\u0301ЃІ\u0308ЇК\u0301ЌИ\u0300ЍУ\u0306ЎИ\u0306Йи\u0306йе\u0300ѐе\u0308ё",
   "г\u0301ѓі\u0308їк\u0301ќи\u0300ѝу\u0306ўѴ\u030fѶѵ\u030fѷЖ\u0306Ӂж\u0306ӂА\u0306Ӑа\u0306ӑ",
   "А\u0308Ӓа\u0308ӓЕ\u0306Ӗе\u0306ӗӘ\u0308Ӛә\u0308ӛЖ\u0308Ӝж\u0308ӝЗ\u0308Ӟз\u0308ӟИ\u0304Ӣ",
   "и\u0304ӣИ\u0308Ӥи\u0308ӥО\u0308Ӧо\u0308ӧӨ\u0308Ӫө\u0308ӫЭ\u0308Ӭэ\u0308ӭУ\u0304Ӯу\u0304ӯ",
   "У\u0308Ӱу\u0308ӱУ\u030bӲу\u030bӳЧ\u0308Ӵч\u0308ӵЫ\u0308Ӹы\u0308ӹ\u0627\u0653\u0622",
   "\u0627\u0654\u0623\u0648\u0654\u0624\u0627\u0655\u0625\u064a\u0654\u0626\u06d5\u0654\u06c0",
   "\u06c1\u0654\u06c2\u06d2\u0654\u06d3न\u093cऩर\u093cऱळ\u093cऴোোৌৌେ\u0b56ୈୋୋୌୌஔஔொொோோ",
   "ௌௌ\u0c46\u0c56\u0c48\u0cbfೕೀ\u0cc6ೕೇ\u0cc6ೖೈ\u0cc6ೂೊೋೋൊൊോോൌൌෙ\u0dcaේොොො\u0dcaෝෞෞ",
   "ဥ\u102eဦᬆᬆᬈᬈᬊᬊᬌᬌᬎᬎᬒᬒ\u1b3aᬵᬻ\u1b3cᬵᬽᭀᭀᭁᭁ\u1b42ᬵᭃA\u0325Ḁa\u0325ḁB\u0307Ḃb\u0307ḃ",
   "B\u0323Ḅb\u0323ḅB\u0331Ḇb\u0331ḇÇ\u0301Ḉç\u0301ḉD\u0307Ḋd\u0307ḋD\u0323Ḍd\u0323ḍD\u0331Ḏ",
   "d\u0331ḏD\u0327Ḑd\u0327ḑD\u032dḒd\u032dḓĒ\u0300Ḕē\u0300ḕĒ\u0301Ḗē\u0301ḗE\u032dḘe\u032dḙ",
   "E\u0330Ḛe\u0330ḛȨ\u0306Ḝȩ\u0306ḝF\u0307Ḟf\u0307ḟG\u0304Ḡg\u0304ḡH\u0307Ḣh\u0307ḣH\u0323Ḥ",
   "h\u0323ḥH\u0308Ḧh\u0308ḧH\u0327Ḩh\u0327ḩH\u032eḪh\u032eḫI\u0330Ḭi\u0330ḭÏ\u0301Ḯï\u0301ḯ",
   "K\u0301Ḱk\u0301ḱK\u0323Ḳk\u0323ḳK\u0331Ḵk\u0331ḵL\u0323Ḷl\u0323ḷḶ\u0304Ḹḷ\u0304ḹL\u0331Ḻ",
   "l\u0331ḻL\u032dḼl\u032dḽM\u0301Ḿm\u0301ḿM\u0307Ṁm\u0307ṁM\u0323Ṃm\u0323ṃN\u0307Ṅn\u0307ṅ",
   "N\u0323Ṇn\u0323ṇN\u0331Ṉn\u0331ṉN\u032dṊn\u032dṋÕ\u0301Ṍõ\u0301ṍÕ\u0308Ṏõ\u0308ṏŌ\u0300Ṑ",
   "ō\u0300ṑŌ\u0301Ṓō\u0301ṓP\u0301Ṕp\u0301ṕP\u0307Ṗp\u0307ṗR\u0307Ṙr\u0307ṙR\u0323Ṛr\u0323ṛ",
   "Ṛ\u0304Ṝṛ\u0304ṝR\u0331Ṟr\u0331ṟS\u0307Ṡs\u0307ṡS\u0323Ṣs\u0323ṣŚ\u0307Ṥś\u0307ṥŠ\u0307Ṧ",
   "š\u0307ṧṢ\u0307Ṩṣ\u0307ṩT\u0307Ṫt\u0307ṫT\u0323Ṭt\u0323ṭT\u0331Ṯt\u0331ṯT\u032dṰt\u032dṱ",
   "U\u0324Ṳu\u0324ṳU\u0330Ṵu\u0330ṵU\u032dṶu\u032dṷŨ\u0301Ṹũ\u0301ṹŪ\u0308Ṻū\u0308ṻV\u0303Ṽ",
   "v\u0303ṽV\u0323Ṿv\u0323ṿW\u0300Ẁw\u0300ẁW\u0301Ẃw\u0301ẃW\u0308Ẅw\u0308ẅW\u0307Ẇw\u0307ẇ",
   "W\u0323Ẉw\u0323ẉX\u0307Ẋx\u0307ẋX\u0308Ẍx\u0308ẍY\u0307Ẏy\u0307ẏZ\u0302Ẑz\u0302ẑZ\u0323Ẓ",
   "z\u0323ẓZ\u0331Ẕz\u0331ẕh\u0331ẖt\u0308ẗw\u030aẘy\u030aẙſ\u0307ẛA\u0323Ạa\u0323ạA\u0309Ả",
   "a\u0309ảÂ\u0301Ấâ\u0301ấÂ\u0300Ầâ\u0300ầÂ\u0309Ẩâ\u0309ẩÂ\u0303Ẫâ\u0303ẫẠ\u0302Ậạ\u0302ậ",
   "Ă\u0301Ắă\u0301ắĂ\u0300Ằă\u0300ằĂ\u0309Ẳă\u0309ẳĂ\u0303Ẵă\u0303ẵẠ\u0306Ặạ\u0306ặE\u0323Ẹ",
   "e\u0323ẹE\u0309Ẻe\u0309ẻE\u0303Ẽe\u0303ẽÊ\u0301Ếê\u0301ếÊ\u0300Ềê\u0300ềÊ\u0309Ểê\u0309ể",
   "Ê\u0303Ễê\u0303ễẸ\u0302Ệẹ\u0302ệI\u0309Ỉi\u0309ỉI\u0323Ịi\u0323ịO\u0323Ọo\u0323ọO\u0309Ỏ",
   "o\u0309ỏÔ\u0301Ốô\u0301ốÔ\u0300Ồô\u0300ồÔ\u0309Ổô\u0309ổÔ\u0303Ỗô\u0303ỗỌ\u0302Ộọ\u0302ộ",
   "Ơ\u0301Ớơ\u0301ớƠ\u0300Ờơ\u0300ờƠ\u0309Ởơ\u0309ởƠ\u0303Ỡơ\u0303ỡƠ\u0323Ợơ\u0323ợU\u0323Ụ",
   "u\u0323ụU\u0309Ủu\u0309ủƯ\u0301Ứư\u0301ứƯ\u0300Ừư\u0300ừƯ\u0309Ửư\u0309ửƯ\u0303Ữư\u0303ữ",
   "Ư\u0323Ựư\u0323ựY\u0300Ỳy\u0300ỳY\u0323Ỵy\u0323ỵY\u0309Ỷy\u0309ỷY\u0303Ỹy\u0303ỹα\u0313ἀ",
   "α\u0314ἁἀ\u0300ἂἁ\u0300ἃἀ\u0301ἄἁ\u0301ἅἀ\u0342ἆἁ\u0342ἇΑ\u0313ἈΑ\u0314ἉἈ\u0300ἊἉ\u0300Ἃ",
   "Ἀ\u0301ἌἉ\u0301ἍἈ\u0342ἎἉ\u0342Ἇε\u0313ἐε\u0314ἑἐ\u0300ἒἑ\u0300ἓἐ\u0301ἔἑ\u0301ἕΕ\u0313Ἐ",
   "Ε\u0314ἙἘ\u0300ἚἙ\u0300ἛἘ\u0301ἜἙ\u0301Ἕη\u0313ἠη\u0314ἡἠ\u0300ἢἡ\u0300ἣἠ\u0301ἤἡ\u0301ἥ",
   "ἠ\u0342ἦἡ\u0342ἧΗ\u0313ἨΗ\u0314ἩἨ\u0300ἪἩ\u0300ἫἨ\u0301ἬἩ\u0301ἭἨ\u0342ἮἩ\u0342Ἧι\u0313ἰ",
   "ι\u0314ἱἰ\u0300ἲἱ\u0300ἳἰ\u0301ἴἱ\u0301ἵἰ\u0342ἶἱ\u0342ἷΙ\u0313ἸΙ\u0314ἹἸ\u0300ἺἹ\u0300Ἳ",
   "Ἰ\u0301ἼἹ\u0301ἽἸ\u0342ἾἹ\u0342Ἷο\u0313ὀο\u0314ὁὀ\u0300ὂὁ\u0300ὃὀ\u0301ὄὁ\u0301ὅΟ\u0313Ὀ",
   "Ο\u0314ὉὈ\u0300ὊὉ\u0300ὋὈ\u0301ὌὉ\u0301Ὅυ\u0313ὐυ\u0314ὑὐ\u0300ὒὑ\u0300ὓὐ\u0301ὔὑ\u0301ὕ",
   "ὐ\u0342ὖὑ\u0342ὗΥ\u0314ὙὙ\u0300ὛὙ\u0301ὝὙ\u0342Ὗω\u0313ὠω\u0314ὡὠ\u0300ὢὡ\u0300ὣὠ\u0301ὤ",
   "ὡ\u0301ὥὠ\u0342ὦὡ\u0342ὧΩ\u0313ὨΩ\u0314ὩὨ\u0300ὪὩ\u0300ὫὨ\u0301ὬὩ\u0301ὭὨ\u0342ὮὩ\u0342Ὧ",
   "α\u0300ὰε\u0300ὲη\u0300ὴι\u0300ὶο\u0300ὸυ\u0300ὺω\u0300ὼἀ\u0345ᾀἁ\u0345ᾁἂ\u0345ᾂἃ\u0345ᾃ",
   "ἄ\u0345ᾄἅ\u0345ᾅἆ\u0345ᾆἇ\u0345ᾇἈ\u0345ᾈἉ\u0345ᾉἊ\u0345ᾊἋ\u0345ᾋἌ\u0345ᾌἍ\u0345ᾍἎ\u0345ᾎ",
   "Ἇ\u0345ᾏἠ\u0345ᾐἡ\u0345ᾑἢ\u0345ᾒἣ\u0345ᾓἤ\u0345ᾔἥ\u0345ᾕἦ\u0345ᾖἧ\u0345ᾗἨ\u0345ᾘἩ\u0345ᾙ",
   "Ἢ\u0345ᾚἫ\u0345ᾛἬ\u0345ᾜἭ\u0345ᾝἮ\u0345ᾞἯ\u0345ᾟὠ\u0345ᾠὡ\u0345ᾡὢ\u0345ᾢὣ\u0345ᾣὤ\u0345ᾤ",
   "ὥ\u0345ᾥὦ\u0345ᾦὧ\u0345ᾧὨ\u0345ᾨὩ\u0345ᾩὪ\u0345ᾪὫ\u0345ᾫὬ\u0345ᾬὭ\u0345ᾭὮ\u0345ᾮὯ\u0345ᾯ",
   "α\u0306ᾰα\u0304ᾱὰ\u0345ᾲα\u0345ᾳά\u0345ᾴα\u0342ᾶᾶ\u0345ᾷΑ\u0306ᾸΑ\u0304ᾹΑ\u0300ᾺΑ\u0345ᾼ",
   "¨\u0342῁ὴ\u0345ῂη\u0345ῃή\u0345ῄη\u0342ῆῆ\u0345ῇΕ\u0300ῈΗ\u0300ῊΗ\u0345ῌ᾿\u0300῍᾿\u0301῎",
   "᾿\u0342῏ι\u0306ῐι\u0304ῑϊ\u0300ῒι\u0342ῖϊ\u0342ῗΙ\u0306ῘΙ\u0304ῙΙ\u0300Ὶ῾\u0300῝῾\u0301῞",
   "῾\u0342῟υ\u0306ῠυ\u0304ῡϋ\u0300ῢρ\u0313ῤρ\u0314ῥυ\u0342ῦϋ\u0342ῧΥ\u0306ῨΥ\u0304ῩΥ\u0300Ὺ",
   "Ρ\u0314Ῥ¨\u0300῭ὼ\u0345ῲω\u0345ῳώ\u0345ῴω\u0342ῶῶ\u0345ῷΟ\u0300ῸΩ\u0300ῺΩ\u0345ῼ←\u0338↚",
   "→\u0338↛↔\u0338↮⇐\u0338⇍⇔\u0338⇎⇒\u0338⇏∃\u0338∄∈\u0338∉∋\u0338∌∣\u0338∤∥\u0338∦∼\u0338≁",
   "≃\u0338≄≅\u0338≇≈\u0338≉=\u0338≠≡\u0338≢≍\u0338≭<\u0338≮>\u0338≯≤\u0338≰≥\u0338≱≲\u0338≴",
   "≳\u0338≵≶\u0338≸≷\u0338≹≺\u0338⊀≻\u0338⊁⊂\u0338⊄⊃\u0338⊅⊆\u0338⊈⊇\u0338⊉⊢\u0338⊬⊨\u0338⊭",
   "⊩\u0338⊮⊫\u0338⊯≼\u0338⋠≽\u0338⋡⊑\u0338⋢⊒\u0338⋣⊲\u0338⋪⊳\u0338⋫⊴\u0338⋬⊵\u0338⋭か\u3099が",
   "き\u3099ぎく\u3099ぐけ\u3099げこ\u3099ごさ\u3099ざし\u3099じす\u3099ずせ\u3099ぜそ\u3099ぞた\u3099だち\u3099ぢ",
   "つ\u3099づて\u3099でと\u3099どは\u3099ばは\u309aぱひ\u3099びひ\u309aぴふ\u3099ぶふ\u309aぷへ\u3099べへ\u309aぺ",
   "ほ\u3099ぼほ\u309aぽう\u3099ゔゝ\u3099ゞカ\u3099ガキ\u3099ギク\u3099グケ\u3099ゲコ\u3099ゴサ\u3099ザシ\u3099ジ",
   "ス\u3099ズセ\u3099ゼソ\u3099ゾタ\u3099ダチ\u3099ヂツ\u3099ヅテ\u3099デト\u3099ドハ\u3099バハ\u309aパヒ\u3099ビ",
   "ヒ\u309aピフ\u3099ブフ\u309aプヘ\u3099ベヘ\u309aペホ\u3099ボホ\u309aポウ\u3099ヴワ\u3099ヷヰ\u3099ヸヱ\u3099ヹ",
   "ヲ\u3099ヺヽ\u3099ヾ𑂚𑂚𑂜𑂜𑂫𑂫𑄮𑄮𑄯𑄯𑍋𑍋𑍌𑍌𑒻𑒻𑒼𑒼𑒾𑒾𑖺𑖺𑖻𑖻𑤸𑤸"]

/-- The ranges of marks and their classes: marks follow a character in the order of these. -/
def markClasses : List (Nat × Nat × Nat) :=
  [(0x300, 0x314, 230), (0x315, 0x315, 232), (0x316, 0x319, 220), (0x31A, 0x31A, 232),
   (0x31B, 0x31B, 216), (0x31C, 0x320, 220), (0x321, 0x322, 202), (0x323, 0x326, 220),
   (0x327, 0x328, 202), (0x329, 0x333, 220), (0x334, 0x338, 1), (0x339, 0x33C, 220),
   (0x33D, 0x344, 230), (0x345, 0x345, 240), (0x346, 0x346, 230), (0x347, 0x349, 220),
   (0x34A, 0x34C, 230), (0x34D, 0x34E, 220), (0x350, 0x352, 230), (0x353, 0x356, 220),
   (0x357, 0x357, 230), (0x358, 0x358, 232), (0x359, 0x35A, 220), (0x35B, 0x35B, 230),
   (0x35C, 0x35C, 233), (0x35D, 0x35E, 234), (0x35F, 0x35F, 233), (0x360, 0x361, 234),
   (0x362, 0x362, 233), (0x363, 0x36F, 230), (0x483, 0x487, 230), (0x591, 0x591, 220),
   (0x592, 0x595, 230), (0x596, 0x596, 220), (0x597, 0x599, 230), (0x59A, 0x59A, 222),
   (0x59B, 0x59B, 220), (0x59C, 0x5A1, 230), (0x5A2, 0x5A7, 220), (0x5A8, 0x5A9, 230),
   (0x5AA, 0x5AA, 220), (0x5AB, 0x5AC, 230), (0x5AD, 0x5AD, 222), (0x5AE, 0x5AE, 228),
   (0x5AF, 0x5AF, 230), (0x5B0, 0x5B0, 10), (0x5B1, 0x5B1, 11), (0x5B2, 0x5B2, 12),
   (0x5B3, 0x5B3, 13), (0x5B4, 0x5B4, 14), (0x5B5, 0x5B5, 15), (0x5B6, 0x5B6, 16),
   (0x5B7, 0x5B7, 17), (0x5B8, 0x5B8, 18), (0x5B9, 0x5BA, 19), (0x5BB, 0x5BB, 20),
   (0x5BC, 0x5BC, 21), (0x5BD, 0x5BD, 22), (0x5BF, 0x5BF, 23), (0x5C1, 0x5C1, 24),
   (0x5C2, 0x5C2, 25), (0x5C4, 0x5C4, 230), (0x5C5, 0x5C5, 220), (0x5C7, 0x5C7, 18),
   (0x610, 0x617, 230), (0x618, 0x618, 30), (0x619, 0x619, 31), (0x61A, 0x61A, 32),
   (0x64B, 0x64B, 27), (0x64C, 0x64C, 28), (0x64D, 0x64D, 29), (0x64E, 0x64E, 30),
   (0x64F, 0x64F, 31), (0x650, 0x650, 32), (0x651, 0x651, 33), (0x652, 0x652, 34),
   (0x653, 0x654, 230), (0x655, 0x656, 220), (0x657, 0x65B, 230), (0x65C, 0x65C, 220),
   (0x65D, 0x65E, 230), (0x65F, 0x65F, 220), (0x670, 0x670, 35), (0x6D6, 0x6DC, 230),
   (0x6DF, 0x6E2, 230), (0x6E3, 0x6E3, 220), (0x6E4, 0x6E4, 230), (0x6E7, 0x6E8, 230),
   (0x6EA, 0x6EA, 220), (0x6EB, 0x6EC, 230), (0x6ED, 0x6ED, 220), (0x711, 0x711, 36),
   (0x730, 0x730, 230), (0x731, 0x731, 220), (0x732, 0x733, 230), (0x734, 0x734, 220),
   (0x735, 0x736, 230), (0x737, 0x739, 220), (0x73A, 0x73A, 230), (0x73B, 0x73C, 220),
   (0x73D, 0x73D, 230), (0x73E, 0x73E, 220), (0x73F, 0x741, 230), (0x742, 0x742, 220),
   (0x743, 0x743, 230), (0x744, 0x744, 220), (0x745, 0x745, 230), (0x746, 0x746, 220),
   (0x747, 0x747, 230), (0x748, 0x748, 220), (0x749, 0x74A, 230), (0x7EB, 0x7F1, 230),
   (0x7F2, 0x7F2, 220), (0x7F3, 0x7F3, 230), (0x7FD, 0x7FD, 220), (0x816, 0x819, 230),
   (0x81B, 0x823, 230), (0x825, 0x827, 230), (0x829, 0x82D, 230), (0x859, 0x85B, 220),
   (0x898, 0x898, 230), (0x899, 0x89B, 220), (0x89C, 0x89F, 230), (0x8CA, 0x8CE, 230),
   (0x8CF, 0x8D3, 220), (0x8D4, 0x8E1, 230), (0x8E3, 0x8E3, 220), (0x8E4, 0x8E5, 230),
   (0x8E6, 0x8E6, 220), (0x8E7, 0x8E8, 230), (0x8E9, 0x8E9, 220), (0x8EA, 0x8EC, 230),
   (0x8ED, 0x8EF, 220), (0x8F0, 0x8F0, 27), (0x8F1, 0x8F1, 28), (0x8F2, 0x8F2, 29),
   (0x8F3, 0x8F5, 230), (0x8F6, 0x8F6, 220), (0x8F7, 0x8F8, 230), (0x8F9, 0x8FA, 220),
   (0x8FB, 0x8FF, 230), (0x93C, 0x93C, 7), (0x94D, 0x94D, 9), (0x951, 0x951, 230),
   (0x952, 0x952, 220), (0x953, 0x954, 230), (0x9BC, 0x9BC, 7), (0x9CD, 0x9CD, 9),
   (0x9FE, 0x9FE, 230), (0xA3C, 0xA3C, 7), (0xA4D, 0xA4D, 9), (0xABC, 0xABC, 7), (0xACD, 0xACD, 9),
   (0xB3C, 0xB3C, 7), (0xB4D, 0xB4D, 9), (0xBCD, 0xBCD, 9), (0xC3C, 0xC3C, 7), (0xC4D, 0xC4D, 9),
   (0xC55, 0xC55, 84), (0xC56, 0xC56, 91), (0xCBC, 0xCBC, 7), (0xCCD, 0xCCD, 9), (0xD3B, 0xD3C, 9),
   (0xD4D, 0xD4D, 9), (0xDCA, 0xDCA, 9), (0xE38, 0xE39, 103), (0xE3A, 0xE3A, 9),
   (0xE48, 0xE4B, 107), (0xEB8, 0xEB9, 118), (0xEBA, 0xEBA, 9), (0xEC8, 0xECB, 122),
   (0xF18, 0xF19, 220), (0xF35, 0xF35, 220), (0xF37, 0xF37, 220), (0xF39, 0xF39, 216),
   (0xF71, 0xF71, 129), (0xF72, 0xF72, 130), (0xF74, 0xF74, 132), (0xF7A, 0xF7D, 130),
   (0xF80, 0xF80, 130), (0xF82, 0xF83, 230), (0xF84, 0xF84, 9), (0xF86, 0xF87, 230),
   (0xFC6, 0xFC6, 220), (0x1037, 0x1037, 7), (0x1039, 0x103A, 9), (0x108D, 0x108D, 220),
   (0x135D, 0x135F, 230), (0x1714, 0x1715, 9), (0x1734, 0x1734, 9), (0x17D2, 0x17D2, 9),
   (0x17DD, 0x17DD, 230), (0x18A9, 0x18A9, 228), (0x1939, 0x1939, 222), (0x193A, 0x193A, 230),
   (0x193B, 0x193B, 220), (0x1A17, 0x1A17, 230), (0x1A18, 0x1A18, 220), (0x1A60, 0x1A60, 9),
   (0x1A75, 0x1A7C, 230), (0x1A7F, 0x1A7F, 220), (0x1AB0, 0x1AB4, 230), (0x1AB5, 0x1ABA, 220),
   (0x1ABB, 0x1ABC, 230), (0x1ABD, 0x1ABD, 220), (0x1ABF, 0x1AC0, 220), (0x1AC1, 0x1AC2, 230),
   (0x1AC3, 0x1AC4, 220), (0x1AC5, 0x1AC9, 230), (0x1ACA, 0x1ACA, 220), (0x1ACB, 0x1ACE, 230),
   (0x1B34, 0x1B34, 7), (0x1B44, 0x1B44, 9), (0x1B6B, 0x1B6B, 230), (0x1B6C, 0x1B6C, 220),
   (0x1B6D, 0x1B73, 230), (0x1BAA, 0x1BAB, 9), (0x1BE6, 0x1BE6, 7), (0x1BF2, 0x1BF3, 9),
   (0x1C37, 0x1C37, 7), (0x1CD0, 0x1CD2, 230), (0x1CD4, 0x1CD4, 1), (0x1CD5, 0x1CD9, 220),
   (0x1CDA, 0x1CDB, 230), (0x1CDC, 0x1CDF, 220), (0x1CE0, 0x1CE0, 230), (0x1CE2, 0x1CE8, 1),
   (0x1CED, 0x1CED, 220), (0x1CF4, 0x1CF4, 230), (0x1CF8, 0x1CF9, 230), (0x1DC0, 0x1DC1, 230),
   (0x1DC2, 0x1DC2, 220), (0x1DC3, 0x1DC9, 230), (0x1DCA, 0x1DCA, 220), (0x1DCB, 0x1DCC, 230),
   (0x1DCD, 0x1DCD, 234), (0x1DCE, 0x1DCE, 214), (0x1DCF, 0x1DCF, 220), (0x1DD0, 0x1DD0, 202),
   (0x1DD1, 0x1DF5, 230), (0x1DF6, 0x1DF6, 232), (0x1DF7, 0x1DF8, 228), (0x1DF9, 0x1DF9, 220),
   (0x1DFA, 0x1DFA, 218), (0x1DFB, 0x1DFB, 230), (0x1DFC, 0x1DFC, 233), (0x1DFD, 0x1DFD, 220),
   (0x1DFE, 0x1DFE, 230), (0x1DFF, 0x1DFF, 220), (0x20D0, 0x20D1, 230), (0x20D2, 0x20D3, 1),
   (0x20D4, 0x20D7, 230), (0x20D8, 0x20DA, 1), (0x20DB, 0x20DC, 230), (0x20E1, 0x20E1, 230),
   (0x20E5, 0x20E6, 1), (0x20E7, 0x20E7, 230), (0x20E8, 0x20E8, 220), (0x20E9, 0x20E9, 230),
   (0x20EA, 0x20EB, 1), (0x20EC, 0x20EF, 220), (0x20F0, 0x20F0, 230), (0x2CEF, 0x2CF1, 230),
   (0x2D7F, 0x2D7F, 9), (0x2DE0, 0x2DFF, 230), (0x302A, 0x302A, 218), (0x302B, 0x302B, 228),
   (0x302C, 0x302C, 232), (0x302D, 0x302D, 222), (0x302E, 0x302F, 224), (0x3099, 0x309A, 8),
   (0xA66F, 0xA66F, 230), (0xA674, 0xA67D, 230), (0xA69E, 0xA69F, 230), (0xA6F0, 0xA6F1, 230),
   (0xA806, 0xA806, 9), (0xA82C, 0xA82C, 9), (0xA8C4, 0xA8C4, 9), (0xA8E0, 0xA8F1, 230),
   (0xA92B, 0xA92D, 220), (0xA953, 0xA953, 9), (0xA9B3, 0xA9B3, 7), (0xA9C0, 0xA9C0, 9),
   (0xAAB0, 0xAAB0, 230), (0xAAB2, 0xAAB3, 230), (0xAAB4, 0xAAB4, 220), (0xAAB7, 0xAAB8, 230),
   (0xAABE, 0xAABF, 230), (0xAAC1, 0xAAC1, 230), (0xAAF6, 0xAAF6, 9), (0xABED, 0xABED, 9),
   (0xFB1E, 0xFB1E, 26), (0xFE20, 0xFE26, 230), (0xFE27, 0xFE2D, 220), (0xFE2E, 0xFE2F, 230),
   (0x101FD, 0x101FD, 220), (0x102E0, 0x102E0, 220), (0x10376, 0x1037A, 230),
   (0x10A0D, 0x10A0D, 220), (0x10A0F, 0x10A0F, 230), (0x10A38, 0x10A38, 230), (0x10A39, 0x10A39, 1),
   (0x10A3A, 0x10A3A, 220), (0x10A3F, 0x10A3F, 9), (0x10AE5, 0x10AE5, 230), (0x10AE6, 0x10AE6, 220),
   (0x10D24, 0x10D27, 230), (0x10EAB, 0x10EAC, 230), (0x10F46, 0x10F47, 220),
   (0x10F48, 0x10F4A, 230), (0x10F4B, 0x10F4B, 220), (0x10F4C, 0x10F4C, 230),
   (0x10F4D, 0x10F50, 220), (0x10F82, 0x10F82, 230), (0x10F83, 0x10F83, 220),
   (0x10F84, 0x10F84, 230), (0x10F85, 0x10F85, 220), (0x11046, 0x11046, 9), (0x11070, 0x11070, 9),
   (0x1107F, 0x1107F, 9), (0x110B9, 0x110B9, 9), (0x110BA, 0x110BA, 7), (0x11100, 0x11102, 230),
   (0x11133, 0x11134, 9), (0x11173, 0x11173, 7), (0x111C0, 0x111C0, 9), (0x111CA, 0x111CA, 7),
   (0x11235, 0x11235, 9), (0x11236, 0x11236, 7), (0x112E9, 0x112E9, 7), (0x112EA, 0x112EA, 9),
   (0x1133B, 0x1133C, 7), (0x1134D, 0x1134D, 9), (0x11366, 0x1136C, 230), (0x11370, 0x11374, 230),
   (0x11442, 0x11442, 9), (0x11446, 0x11446, 7), (0x1145E, 0x1145E, 230), (0x114C2, 0x114C2, 9),
   (0x114C3, 0x114C3, 7), (0x115BF, 0x115BF, 9), (0x115C0, 0x115C0, 7), (0x1163F, 0x1163F, 9),
   (0x116B6, 0x116B6, 9), (0x116B7, 0x116B7, 7), (0x1172B, 0x1172B, 9), (0x11839, 0x11839, 9),
   (0x1183A, 0x1183A, 7), (0x1193D, 0x1193E, 9), (0x11943, 0x11943, 7), (0x119E0, 0x119E0, 9),
   (0x11A34, 0x11A34, 9), (0x11A47, 0x11A47, 9), (0x11A99, 0x11A99, 9), (0x11C3F, 0x11C3F, 9),
   (0x11D42, 0x11D42, 7), (0x11D44, 0x11D45, 9), (0x11D97, 0x11D97, 9), (0x16AF0, 0x16AF4, 1),
   (0x16B30, 0x16B36, 230), (0x16FF0, 0x16FF1, 6), (0x1BC9E, 0x1BC9E, 1), (0x1D165, 0x1D166, 216),
   (0x1D167, 0x1D169, 1), (0x1D16D, 0x1D16D, 226), (0x1D16E, 0x1D172, 216), (0x1D17B, 0x1D182, 220),
   (0x1D185, 0x1D189, 230), (0x1D18A, 0x1D18B, 220), (0x1D1AA, 0x1D1AD, 230),
   (0x1D242, 0x1D244, 230), (0x1E000, 0x1E006, 230), (0x1E008, 0x1E018, 230),
   (0x1E01B, 0x1E021, 230), (0x1E023, 0x1E024, 230), (0x1E026, 0x1E02A, 230),
   (0x1E130, 0x1E136, 230), (0x1E2AE, 0x1E2AE, 230), (0x1E2EC, 0x1E2EF, 230),
   (0x1E8D0, 0x1E8D6, 220), (0x1E944, 0x1E949, 230), (0x1E94A, 0x1E94A, 7)]

end ScriptReport.Text
