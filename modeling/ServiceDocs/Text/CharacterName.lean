namespace ServiceDocs.Text

/-!
# Names of characters

Characters have names of words in capitals.  The table holds those of the Latin, Greek and Cyrillic
letters in common use, of punctuation, signs and symbols, and of the characters that only control a
text, which go by other names than those of the standard.

* `nameRows` — names of characters that directly follow one another;
* `characterNames` — further names, most of them short forms;
* `characterOf?` — the character of a name.
-/

/-- Names of characters that directly follow one another: the number of the first one, what all
    their names start with, and the rest of each name. -/
def nameRows : List (Nat × String × String) := [
  (0x0, "", "NULL;START OF HEADING;START OF TEXT;END OF TEXT;END OF TRANSMISSION;ENQUIRY"),
  (0x6, "", "ACKNOWLEDGE;ALERT;BACKSPACE;CHARACTER TABULATION;LINE FEED;LINE TABULATION"),
  (0xc, "", "FORM FEED;CARRIAGE RETURN;SHIFT OUT;SHIFT IN;DATA LINK ESCAPE"),
  (0x11, "DEVICE CONTROL ", "ONE;TWO;THREE;FOUR"),
  (0x15, "", "NEGATIVE ACKNOWLEDGE;SYNCHRONOUS IDLE;END OF TRANSMISSION BLOCK;CANCEL"),
  (0x19, "", "END OF MEDIUM;SUBSTITUTE;ESCAPE"),
  (0x1c, "INFORMATION SEPARATOR ", "FOUR;THREE;TWO;ONE"),
  (0x20, "", "SPACE;EXCLAMATION MARK;QUOTATION MARK"),
  (0x23, "", "NUMBER SIGN;DOLLAR SIGN;PERCENT SIGN;AMPERSAND;APOSTROPHE;LEFT PARENTHESIS"),
  (0x29, "", "RIGHT PARENTHESIS;ASTERISK;PLUS SIGN;COMMA;HYPHEN-MINUS;FULL STOP;SOLIDUS"),
  (0x30, "DIGIT ", "ZERO;ONE;TWO;THREE;FOUR;FIVE;SIX;SEVEN;EIGHT;NINE"),
  (0x3a, "", "COLON"),
  (0x3b, "", "SEMICOLON;LESS-THAN SIGN;EQUALS SIGN;GREATER-THAN SIGN;QUESTION MARK;COMMERCIAL AT"),
  (0x41, "LATIN CAPITAL LETTER ", "A;B;C;D;E;F;G;H;I;J;K;L;M;N;O;P;Q;R;S;T;U;V;W;X;Y;Z"),
  (0x5b, "", "LEFT SQUARE BRACKET"),
  (0x5c, "", "REVERSE SOLIDUS;RIGHT SQUARE BRACKET;CIRCUMFLEX ACCENT;LOW LINE;GRAVE ACCENT"),
  (0x61, "LATIN SMALL LETTER ", "A;B;C;D;E;F;G;H;I;J;K;L;M;N;O;P;Q;R;S;T;U;V;W;X;Y;Z"),
  (0x7b, "", "LEFT CURLY BRACKET;VERTICAL LINE;RIGHT CURLY BRACKET;TILDE"),
  (0xa0, "", "NO-BREAK SPACE;INVERTED EXCLAMATION MARK"),
  (0xa2, "", "CENT SIGN;POUND SIGN;CURRENCY SIGN;YEN SIGN;BROKEN BAR;SECTION SIGN;DIAERESIS"),
  (0xa9, "", "COPYRIGHT SIGN;FEMININE ORDINAL INDICATOR;LEFT-POINTING DOUBLE ANGLE QUOTATION MARK"),
  (0xac, "", "NOT SIGN;SOFT HYPHEN;REGISTERED SIGN;MACRON;DEGREE SIGN;PLUS-MINUS SIGN"),
  (0xb2, "SUPERSCRIPT ", "TWO;THREE"),
  (0xb4, "", "ACUTE ACCENT;MICRO SIGN;PILCROW SIGN;MIDDLE DOT;CEDILLA;SUPERSCRIPT ONE"),
  (0xba, "", "MASCULINE ORDINAL INDICATOR;RIGHT-POINTING DOUBLE ANGLE QUOTATION MARK"),
  (0xbc, "VULGAR FRACTION ", "ONE QUARTER;ONE HALF;THREE QUARTERS"),
  (0xbf, "", "INVERTED QUESTION MARK"),
  (0xc0, "LATIN CAPITAL LETTER A WITH ", "GRAVE;ACUTE;CIRCUMFLEX;TILDE;DIAERESIS;RING ABOVE"),
  (0xc6, "LATIN CAPITAL LETTER ", "AE;C WITH CEDILLA;E WITH GRAVE;E WITH ACUTE"),
  (0xca, "LATIN CAPITAL LETTER ", "E WITH CIRCUMFLEX;E WITH DIAERESIS;I WITH GRAVE;I WITH ACUTE"),
  (0xce, "LATIN CAPITAL LETTER ", "I WITH CIRCUMFLEX;I WITH DIAERESIS;ETH;N WITH TILDE"),
  (0xd2, "LATIN CAPITAL LETTER O WITH ", "GRAVE;ACUTE;CIRCUMFLEX;TILDE;DIAERESIS"),
  (0xd7, "", "MULTIPLICATION SIGN;LATIN CAPITAL LETTER O WITH STROKE"),
  (0xd9, "LATIN CAPITAL LETTER U WITH ", "GRAVE;ACUTE;CIRCUMFLEX;DIAERESIS"),
  (0xdd, "LATIN ", "CAPITAL LETTER Y WITH ACUTE;CAPITAL LETTER THORN;SMALL LETTER SHARP S"),
  (0xe0, "LATIN SMALL LETTER A WITH ", "GRAVE;ACUTE;CIRCUMFLEX;TILDE;DIAERESIS;RING ABOVE"),
  (0xe6, "LATIN SMALL LETTER ", "AE;C WITH CEDILLA;E WITH GRAVE"),
  (0xe9, "LATIN SMALL LETTER ", "E WITH ACUTE;E WITH CIRCUMFLEX;E WITH DIAERESIS;I WITH GRAVE"),
  (0xed, "LATIN SMALL LETTER ", "I WITH ACUTE;I WITH CIRCUMFLEX;I WITH DIAERESIS;ETH;N WITH TILDE"),
  (0xf2, "LATIN SMALL LETTER O WITH ", "GRAVE;ACUTE;CIRCUMFLEX;TILDE;DIAERESIS"),
  (0xf7, "", "DIVISION SIGN;LATIN SMALL LETTER O WITH STROKE"),
  (0xf9, "LATIN SMALL LETTER U WITH ", "GRAVE;ACUTE;CIRCUMFLEX;DIAERESIS"),
  (0xfd, "LATIN SMALL LETTER ", "Y WITH ACUTE;THORN;Y WITH DIAERESIS"),
  (0x100, "LATIN ", "CAPITAL LETTER A WITH MACRON;SMALL LETTER A WITH MACRON"),
  (0x102, "LATIN ", "CAPITAL LETTER A WITH BREVE;SMALL LETTER A WITH BREVE"),
  (0x104, "LATIN ", "CAPITAL LETTER A WITH OGONEK;SMALL LETTER A WITH OGONEK"),
  (0x106, "LATIN ", "CAPITAL LETTER C WITH ACUTE;SMALL LETTER C WITH ACUTE"),
  (0x108, "LATIN ", "CAPITAL LETTER C WITH CIRCUMFLEX;SMALL LETTER C WITH CIRCUMFLEX"),
  (0x10a, "LATIN ", "CAPITAL LETTER C WITH DOT ABOVE;SMALL LETTER C WITH DOT ABOVE"),
  (0x10c, "LATIN ", "CAPITAL LETTER C WITH CARON;SMALL LETTER C WITH CARON"),
  (0x10e, "LATIN ", "CAPITAL LETTER D WITH CARON;SMALL LETTER D WITH CARON"),
  (0x110, "LATIN ", "CAPITAL LETTER D WITH STROKE;SMALL LETTER D WITH STROKE"),
  (0x112, "LATIN ", "CAPITAL LETTER E WITH MACRON;SMALL LETTER E WITH MACRON"),
  (0x114, "LATIN ", "CAPITAL LETTER E WITH BREVE;SMALL LETTER E WITH BREVE"),
  (0x116, "LATIN ", "CAPITAL LETTER E WITH DOT ABOVE;SMALL LETTER E WITH DOT ABOVE"),
  (0x118, "LATIN ", "CAPITAL LETTER E WITH OGONEK;SMALL LETTER E WITH OGONEK"),
  (0x11a, "LATIN ", "CAPITAL LETTER E WITH CARON;SMALL LETTER E WITH CARON"),
  (0x11c, "LATIN ", "CAPITAL LETTER G WITH CIRCUMFLEX;SMALL LETTER G WITH CIRCUMFLEX"),
  (0x11e, "LATIN ", "CAPITAL LETTER G WITH BREVE;SMALL LETTER G WITH BREVE"),
  (0x120, "LATIN ", "CAPITAL LETTER G WITH DOT ABOVE;SMALL LETTER G WITH DOT ABOVE"),
  (0x122, "LATIN ", "CAPITAL LETTER G WITH CEDILLA;SMALL LETTER G WITH CEDILLA"),
  (0x124, "LATIN ", "CAPITAL LETTER H WITH CIRCUMFLEX;SMALL LETTER H WITH CIRCUMFLEX"),
  (0x126, "LATIN ", "CAPITAL LETTER H WITH STROKE;SMALL LETTER H WITH STROKE"),
  (0x128, "LATIN ", "CAPITAL LETTER I WITH TILDE;SMALL LETTER I WITH TILDE"),
  (0x12a, "LATIN ", "CAPITAL LETTER I WITH MACRON;SMALL LETTER I WITH MACRON"),
  (0x12c, "LATIN ", "CAPITAL LETTER I WITH BREVE;SMALL LETTER I WITH BREVE"),
  (0x12e, "LATIN ", "CAPITAL LETTER I WITH OGONEK;SMALL LETTER I WITH OGONEK"),
  (0x130, "LATIN ", "CAPITAL LETTER I WITH DOT ABOVE;SMALL LETTER DOTLESS I"),
  (0x132, "LATIN ", "CAPITAL LIGATURE IJ;SMALL LIGATURE IJ;CAPITAL LETTER J WITH CIRCUMFLEX"),
  (0x135, "LATIN ", "SMALL LETTER J WITH CIRCUMFLEX;CAPITAL LETTER K WITH CEDILLA"),
  (0x137, "LATIN ", "SMALL LETTER K WITH CEDILLA;SMALL LETTER KRA;CAPITAL LETTER L WITH ACUTE"),
  (0x13a, "LATIN ", "SMALL LETTER L WITH ACUTE;CAPITAL LETTER L WITH CEDILLA"),
  (0x13c, "LATIN ", "SMALL LETTER L WITH CEDILLA;CAPITAL LETTER L WITH CARON"),
  (0x13e, "LATIN ", "SMALL LETTER L WITH CARON;CAPITAL LETTER L WITH MIDDLE DOT"),
  (0x140, "LATIN ", "SMALL LETTER L WITH MIDDLE DOT;CAPITAL LETTER L WITH STROKE"),
  (0x142, "LATIN ", "SMALL LETTER L WITH STROKE;CAPITAL LETTER N WITH ACUTE"),
  (0x144, "LATIN ", "SMALL LETTER N WITH ACUTE;CAPITAL LETTER N WITH CEDILLA"),
  (0x146, "LATIN ", "SMALL LETTER N WITH CEDILLA;CAPITAL LETTER N WITH CARON"),
  (0x148, "LATIN SMALL LETTER N ", "WITH CARON;PRECEDED BY APOSTROPHE"),
  (0x14a, "LATIN ", "CAPITAL LETTER ENG;SMALL LETTER ENG;CAPITAL LETTER O WITH MACRON"),
  (0x14d, "LATIN ", "SMALL LETTER O WITH MACRON;CAPITAL LETTER O WITH BREVE"),
  (0x14f, "LATIN ", "SMALL LETTER O WITH BREVE;CAPITAL LETTER O WITH DOUBLE ACUTE"),
  (0x151, "LATIN ", "SMALL LETTER O WITH DOUBLE ACUTE;CAPITAL LIGATURE OE"),
  (0x153, "LATIN ", "SMALL LIGATURE OE;CAPITAL LETTER R WITH ACUTE;SMALL LETTER R WITH ACUTE"),
  (0x156, "LATIN ", "CAPITAL LETTER R WITH CEDILLA;SMALL LETTER R WITH CEDILLA"),
  (0x158, "LATIN ", "CAPITAL LETTER R WITH CARON;SMALL LETTER R WITH CARON"),
  (0x15a, "LATIN ", "CAPITAL LETTER S WITH ACUTE;SMALL LETTER S WITH ACUTE"),
  (0x15c, "LATIN ", "CAPITAL LETTER S WITH CIRCUMFLEX;SMALL LETTER S WITH CIRCUMFLEX"),
  (0x15e, "LATIN ", "CAPITAL LETTER S WITH CEDILLA;SMALL LETTER S WITH CEDILLA"),
  (0x160, "LATIN ", "CAPITAL LETTER S WITH CARON;SMALL LETTER S WITH CARON"),
  (0x162, "LATIN ", "CAPITAL LETTER T WITH CEDILLA;SMALL LETTER T WITH CEDILLA"),
  (0x164, "LATIN ", "CAPITAL LETTER T WITH CARON;SMALL LETTER T WITH CARON"),
  (0x166, "LATIN ", "CAPITAL LETTER T WITH STROKE;SMALL LETTER T WITH STROKE"),
  (0x168, "LATIN ", "CAPITAL LETTER U WITH TILDE;SMALL LETTER U WITH TILDE"),
  (0x16a, "LATIN ", "CAPITAL LETTER U WITH MACRON;SMALL LETTER U WITH MACRON"),
  (0x16c, "LATIN ", "CAPITAL LETTER U WITH BREVE;SMALL LETTER U WITH BREVE"),
  (0x16e, "LATIN ", "CAPITAL LETTER U WITH RING ABOVE;SMALL LETTER U WITH RING ABOVE"),
  (0x170, "LATIN ", "CAPITAL LETTER U WITH DOUBLE ACUTE;SMALL LETTER U WITH DOUBLE ACUTE"),
  (0x172, "LATIN ", "CAPITAL LETTER U WITH OGONEK;SMALL LETTER U WITH OGONEK"),
  (0x174, "LATIN ", "CAPITAL LETTER W WITH CIRCUMFLEX;SMALL LETTER W WITH CIRCUMFLEX"),
  (0x176, "LATIN ", "CAPITAL LETTER Y WITH CIRCUMFLEX;SMALL LETTER Y WITH CIRCUMFLEX"),
  (0x178, "LATIN CAPITAL LETTER ", "Y WITH DIAERESIS;Z WITH ACUTE"),
  (0x17a, "LATIN ", "SMALL LETTER Z WITH ACUTE;CAPITAL LETTER Z WITH DOT ABOVE"),
  (0x17c, "LATIN ", "SMALL LETTER Z WITH DOT ABOVE;CAPITAL LETTER Z WITH CARON"),
  (0x17e, "LATIN SMALL LETTER ", "Z WITH CARON;LONG S"),
  (0x300, "COMBINING ", "GRAVE ACCENT;ACUTE ACCENT;CIRCUMFLEX ACCENT;TILDE;MACRON;OVERLINE;BREVE"),
  (0x307, "COMBINING ", "DOT ABOVE;DIAERESIS;HOOK ABOVE;RING ABOVE;DOUBLE ACUTE ACCENT;CARON"),
  (0x384, "GREEK ", "TONOS;DIALYTIKA TONOS;CAPITAL LETTER ALPHA WITH TONOS;ANO TELEIA"),
  (0x388, "GREEK CAPITAL LETTER ", "EPSILON WITH TONOS;ETA WITH TONOS;IOTA WITH TONOS"),
  (0x38c, "", "GREEK CAPITAL LETTER OMICRON WITH TONOS"),
  (0x38e, "GREEK CAPITAL LETTER ", "UPSILON WITH TONOS;OMEGA WITH TONOS"),
  (0x390, "", "GREEK SMALL LETTER IOTA WITH DIALYTIKA AND TONOS"),
  (0x391, "GREEK CAPITAL LETTER ", "ALPHA;BETA;GAMMA;DELTA;EPSILON"),
  (0x396, "GREEK CAPITAL LETTER ", "ZETA;ETA;THETA;IOTA;KAPPA;LAMDA;MU;NU;XI;OMICRON;PI;RHO"),
  (0x3a3, "GREEK CAPITAL LETTER ", "SIGMA;TAU;UPSILON"),
  (0x3a6, "GREEK CAPITAL LETTER ", "PHI;CHI;PSI;OMEGA;IOTA WITH DIALYTIKA;UPSILON WITH DIALYTIKA"),
  (0x3ac, "GREEK SMALL LETTER ", "ALPHA WITH TONOS;EPSILON WITH TONOS"),
  (0x3ae, "GREEK SMALL LETTER ", "ETA WITH TONOS;IOTA WITH TONOS;UPSILON WITH DIALYTIKA AND TONOS"),
  (0x3b1, "GREEK SMALL LETTER ", "ALPHA;BETA;GAMMA;DELTA;EPSILON;ZETA;ETA;THETA;IOTA;KAPPA"),
  (0x3bb, "GREEK SMALL LETTER ", "LAMDA;MU;NU;XI;OMICRON;PI;RHO;FINAL SIGMA;SIGMA;TAU;UPSILON"),
  (0x3c6, "GREEK SMALL LETTER ", "PHI;CHI;PSI;OMEGA;IOTA WITH DIALYTIKA;UPSILON WITH DIALYTIKA"),
  (0x3cc, "GREEK SMALL LETTER ", "OMICRON WITH TONOS;UPSILON WITH TONOS;OMEGA WITH TONOS"),
  (0x401, "CYRILLIC CAPITAL LETTER ", "IO;DJE;GJE;UKRAINIAN IE;DZE;BYELORUSSIAN-UKRAINIAN I"),
  (0x407, "CYRILLIC CAPITAL LETTER ", "YI;JE;LJE;NJE;TSHE;KJE;I WITH GRAVE;SHORT U;DZHE;A"),
  (0x411, "CYRILLIC CAPITAL LETTER ", "BE;VE;GHE;DE;IE;ZHE;ZE;I;SHORT I;KA;EL;EM;EN;O;PE;ER;ES;TE"),
  (0x423, "CYRILLIC CAPITAL LETTER ", "U;EF;HA;TSE;CHE;SHA;SHCHA;HARD SIGN;YERU;SOFT SIGN;E;YU;YA"),
  (0x430, "CYRILLIC SMALL LETTER ", "A;BE;VE;GHE"),
  (0x434, "CYRILLIC SMALL LETTER ", "DE;IE;ZHE;ZE;I;SHORT I;KA;EL;EM;EN;O;PE;ER;ES;TE;U;EF;HA;TSE"),
  (0x447, "CYRILLIC SMALL LETTER ", "CHE;SHA;SHCHA;HARD SIGN;YERU;SOFT SIGN;E;YU;YA;IE WITH GRAVE"),
  (0x451, "CYRILLIC SMALL LETTER ", "IO;DJE;GJE;UKRAINIAN IE;DZE;BYELORUSSIAN-UKRAINIAN I"),
  (0x457, "CYRILLIC SMALL LETTER ", "YI;JE;LJE;NJE;TSHE;KJE;I WITH GRAVE;SHORT U;DZHE"),
  (0x2000, "", "EN QUAD;EM QUAD;EN SPACE;EM SPACE;THREE-PER-EM SPACE;FOUR-PER-EM SPACE"),
  (0x2006, "", "SIX-PER-EM SPACE;FIGURE SPACE;PUNCTUATION SPACE;THIN SPACE;HAIR SPACE"),
  (0x200b, "ZERO WIDTH ", "SPACE;NON-JOINER;JOINER"),
  (0x200e, "", "LEFT-TO-RIGHT MARK;RIGHT-TO-LEFT MARK;HYPHEN;NON-BREAKING HYPHEN"),
  (0x2012, "", "FIGURE DASH;EN DASH;EM DASH;HORIZONTAL BAR;DOUBLE VERTICAL LINE"),
  (0x2017, "", "DOUBLE LOW LINE;LEFT SINGLE QUOTATION MARK;RIGHT SINGLE QUOTATION MARK"),
  (0x201a, "SINGLE ", "LOW-9 QUOTATION MARK;HIGH-REVERSED-9 QUOTATION MARK"),
  (0x201c, "", "LEFT DOUBLE QUOTATION MARK;RIGHT DOUBLE QUOTATION MARK"),
  (0x201e, "DOUBLE ", "LOW-9 QUOTATION MARK;HIGH-REVERSED-9 QUOTATION MARK"),
  (0x2020, "", "DAGGER;DOUBLE DAGGER;BULLET;TRIANGULAR BULLET;ONE DOT LEADER;TWO DOT LEADER"),
  (0x2026, "", "HORIZONTAL ELLIPSIS;HYPHENATION POINT;LINE SEPARATOR;PARAGRAPH SEPARATOR"),
  (0x202a, "", "LEFT-TO-RIGHT EMBEDDING;RIGHT-TO-LEFT EMBEDDING;POP DIRECTIONAL FORMATTING"),
  (0x202d, "", "LEFT-TO-RIGHT OVERRIDE;RIGHT-TO-LEFT OVERRIDE;NARROW NO-BREAK SPACE"),
  (0x2030, "", "PER MILLE SIGN;PER TEN THOUSAND SIGN;PRIME;DOUBLE PRIME;TRIPLE PRIME"),
  (0x2035, "REVERSED ", "PRIME;DOUBLE PRIME;TRIPLE PRIME"),
  (0x2038, "", "CARET;SINGLE LEFT-POINTING ANGLE QUOTATION MARK"),
  (0x203a, "", "SINGLE RIGHT-POINTING ANGLE QUOTATION MARK;REFERENCE MARK;DOUBLE EXCLAMATION MARK"),
  (0x203d, "", "INTERROBANG;OVERLINE;UNDERTIE;CHARACTER TIE;CARET INSERTION POINT"),
  (0x2042, "", "ASTERISM;HYPHEN BULLET;FRACTION SLASH;LEFT SQUARE BRACKET WITH QUILL"),
  (0x2046, "", "RIGHT SQUARE BRACKET WITH QUILL;DOUBLE QUESTION MARK;QUESTION EXCLAMATION MARK"),
  (0x2049, "", "EXCLAMATION QUESTION MARK;TIRONIAN SIGN ET;REVERSED PILCROW SIGN"),
  (0x204c, "", "BLACK LEFTWARDS BULLET;BLACK RIGHTWARDS BULLET;LOW ASTERISK;REVERSED SEMICOLON"),
  (0x2050, "", "CLOSE UP;TWO ASTERISKS ALIGNED VERTICALLY;COMMERCIAL MINUS SIGN"),
  (0x2053, "", "SWUNG DASH;INVERTED UNDERTIE;FLOWER PUNCTUATION MARK;THREE DOT PUNCTUATION"),
  (0x2057, "", "QUADRUPLE PRIME;FOUR DOT PUNCTUATION;FIVE DOT PUNCTUATION;TWO DOT PUNCTUATION"),
  (0x205b, "", "FOUR DOT MARK;DOTTED CROSS;TRICOLON;VERTICAL FOUR DOTS;MEDIUM MATHEMATICAL SPACE"),
  (0x2060, "", "WORD JOINER;FUNCTION APPLICATION;INVISIBLE TIMES;INVISIBLE SEPARATOR"),
  (0x2070, "SUPERSCRIPT ", "ZERO;LATIN SMALL LETTER I"),
  (0x2074, "SUPERSCRIPT ", "FOUR;FIVE;SIX;SEVEN;EIGHT;NINE;PLUS SIGN;MINUS"),
  (0x207c, "SUPERSCRIPT ", "EQUALS SIGN;LEFT PARENTHESIS;RIGHT PARENTHESIS;LATIN SMALL LETTER N"),
  (0x2080, "SUBSCRIPT ", "ZERO;ONE;TWO;THREE;FOUR;FIVE;SIX;SEVEN;EIGHT"),
  (0x2089, "SUBSCRIPT ", "NINE;PLUS SIGN;MINUS;EQUALS SIGN;LEFT PARENTHESIS;RIGHT PARENTHESIS"),
  (0x20a0, "", "EURO-CURRENCY SIGN;COLON SIGN;CRUZEIRO SIGN"),
  (0x20a3, "", "FRENCH FRANC SIGN;LIRA SIGN;MILL SIGN;NAIRA SIGN;PESETA SIGN;RUPEE SIGN"),
  (0x20a9, "", "WON SIGN;NEW SHEQEL SIGN;DONG SIGN;EURO SIGN;KIP SIGN;TUGRIK SIGN;DRACHMA SIGN"),
  (0x20b0, "", "GERMAN PENNY SIGN;PESO SIGN;GUARANI SIGN;AUSTRAL SIGN;HRYVNIA SIGN;CEDI SIGN"),
  (0x20b6, "", "LIVRE TOURNOIS SIGN;SPESMILO SIGN;TENGE SIGN;INDIAN RUPEE SIGN;TURKISH LIRA SIGN"),
  (0x20bb, "", "NORDIC MARK SIGN;MANAT SIGN;RUBLE SIGN;LARI SIGN;BITCOIN SIGN;SOM SIGN"),
  (0x2100, "", "ACCOUNT OF;ADDRESSED TO THE SUBJECT;DOUBLE-STRUCK CAPITAL C;DEGREE CELSIUS"),
  (0x2104, "", "CENTRE LINE SYMBOL;CARE OF;CADA UNA;EULER CONSTANT;SCRUPLE;DEGREE FAHRENHEIT"),
  (0x210a, "", "SCRIPT SMALL G;SCRIPT CAPITAL H;BLACK-LETTER CAPITAL H;DOUBLE-STRUCK CAPITAL H"),
  (0x210e, "", "PLANCK CONSTANT;PLANCK CONSTANT OVER TWO PI;SCRIPT CAPITAL I"),
  (0x2111, "", "BLACK-LETTER CAPITAL I;SCRIPT CAPITAL L;SCRIPT SMALL L;L B BAR SYMBOL"),
  (0x2115, "", "DOUBLE-STRUCK CAPITAL N;NUMERO SIGN;SOUND RECORDING COPYRIGHT;SCRIPT CAPITAL P"),
  (0x2119, "DOUBLE-STRUCK CAPITAL ", "P;Q"),
  (0x211b, "", "SCRIPT CAPITAL R;BLACK-LETTER CAPITAL R;DOUBLE-STRUCK CAPITAL R"),
  (0x211e, "", "PRESCRIPTION TAKE;RESPONSE;SERVICE MARK;TELEPHONE SIGN;TRADE MARK SIGN"),
  (0x2123, "", "VERSICLE;DOUBLE-STRUCK CAPITAL Z;OUNCE SIGN;OHM SIGN;INVERTED OHM SIGN"),
  (0x2128, "", "BLACK-LETTER CAPITAL Z;TURNED GREEK SMALL LETTER IOTA;KELVIN SIGN;ANGSTROM SIGN"),
  (0x212c, "", "SCRIPT CAPITAL B;BLACK-LETTER CAPITAL C;ESTIMATED SYMBOL;SCRIPT SMALL E"),
  (0x2130, "SCRIPT CAPITAL ", "E;F"),
  (0x2132, "", "TURNED CAPITAL F;SCRIPT CAPITAL M;SCRIPT SMALL O;ALEF SYMBOL;BET SYMBOL"),
  (0x2137, "", "GIMEL SYMBOL;DALET SYMBOL;INFORMATION SOURCE;ROTATED CAPITAL Q;FACSIMILE SIGN"),
  (0x2150, "VULGAR FRACTION ", "ONE SEVENTH;ONE NINTH;ONE TENTH;ONE THIRD;TWO THIRDS"),
  (0x2155, "VULGAR FRACTION ", "ONE FIFTH;TWO FIFTHS;THREE FIFTHS;FOUR FIFTHS;ONE SIXTH"),
  (0x215a, "VULGAR FRACTION ", "FIVE SIXTHS;ONE EIGHTH;THREE EIGHTHS;FIVE EIGHTHS;SEVEN EIGHTHS"),
  (0x215f, "", "FRACTION NUMERATOR ONE"),
  (0x2160, "ROMAN NUMERAL ", "ONE;TWO;THREE;FOUR;FIVE;SIX;SEVEN;EIGHT"),
  (0x2168, "ROMAN NUMERAL ", "NINE;TEN;ELEVEN;TWELVE;FIFTY;ONE HUNDRED;FIVE HUNDRED;ONE THOUSAND"),
  (0x2170, "SMALL ROMAN NUMERAL ", "ONE;TWO;THREE;FOUR;FIVE;SIX;SEVEN;EIGHT;NINE"),
  (0x2179, "SMALL ROMAN NUMERAL ", "TEN;ELEVEN;TWELVE;FIFTY;ONE HUNDRED;FIVE HUNDRED;ONE THOUSAND"),
  (0x2180, "ROMAN NUMERAL ", "ONE THOUSAND C D;FIVE THOUSAND;TEN THOUSAND;REVERSED ONE HUNDRED"),
  (0x2184, "", "LATIN SMALL LETTER REVERSED C"),
  (0x2185, "ROMAN NUMERAL ", "SIX LATE FORM;FIFTY EARLY FORM;FIFTY THOUSAND;ONE HUNDRED THOUSAND"),
  (0x2189, "", "VULGAR FRACTION ZERO THIRDS"),
  (0x2190, "", "LEFTWARDS ARROW;UPWARDS ARROW"),
  (0x2192, "", "RIGHTWARDS ARROW;DOWNWARDS ARROW;LEFT RIGHT ARROW;UP DOWN ARROW;NORTH WEST ARROW"),
  (0x2197, "", "NORTH EAST ARROW;SOUTH EAST ARROW;SOUTH WEST ARROW;LEFTWARDS ARROW WITH STROKE"),
  (0x219b, "", "RIGHTWARDS ARROW WITH STROKE;LEFTWARDS WAVE ARROW;RIGHTWARDS WAVE ARROW"),
  (0x219e, "", "LEFTWARDS TWO HEADED ARROW;UPWARDS TWO HEADED ARROW;RIGHTWARDS TWO HEADED ARROW"),
  (0x21a1, "", "DOWNWARDS TWO HEADED ARROW;LEFTWARDS ARROW WITH TAIL;RIGHTWARDS ARROW WITH TAIL"),
  (0x21a4, "", "LEFTWARDS ARROW FROM BAR;UPWARDS ARROW FROM BAR;RIGHTWARDS ARROW FROM BAR"),
  (0x21a7, "", "DOWNWARDS ARROW FROM BAR;UP DOWN ARROW WITH BASE;LEFTWARDS ARROW WITH HOOK"),
  (0x21aa, "", "RIGHTWARDS ARROW WITH HOOK;LEFTWARDS ARROW WITH LOOP;RIGHTWARDS ARROW WITH LOOP"),
  (0x21ad, "", "LEFT RIGHT WAVE ARROW;LEFT RIGHT ARROW WITH STROKE;DOWNWARDS ZIGZAG ARROW"),
  (0x21b0, "UPWARDS ARROW WITH TIP ", "LEFTWARDS;RIGHTWARDS"),
  (0x21b2, "DOWNWARDS ARROW WITH TIP ", "LEFTWARDS;RIGHTWARDS"),
  (0x21b4, "", "RIGHTWARDS ARROW WITH CORNER DOWNWARDS;DOWNWARDS ARROW WITH CORNER LEFTWARDS"),
  (0x21b6, "", "ANTICLOCKWISE TOP SEMICIRCLE ARROW;CLOCKWISE TOP SEMICIRCLE ARROW"),
  (0x21b8, "", "NORTH WEST ARROW TO LONG BAR;LEFTWARDS ARROW TO BAR OVER RIGHTWARDS ARROW TO BAR"),
  (0x21ba, "", "ANTICLOCKWISE OPEN CIRCLE ARROW;CLOCKWISE OPEN CIRCLE ARROW"),
  (0x21bc, "LEFTWARDS HARPOON WITH BARB ", "UPWARDS;DOWNWARDS"),
  (0x21be, "UPWARDS HARPOON WITH BARB ", "RIGHTWARDS;LEFTWARDS"),
  (0x21c0, "RIGHTWARDS HARPOON WITH BARB ", "UPWARDS;DOWNWARDS"),
  (0x21c2, "DOWNWARDS HARPOON WITH BARB ", "RIGHTWARDS;LEFTWARDS"),
  (0x21c4, "", "RIGHTWARDS ARROW OVER LEFTWARDS ARROW;UPWARDS ARROW LEFTWARDS OF DOWNWARDS ARROW"),
  (0x21c6, "LEFTWARDS ", "ARROW OVER RIGHTWARDS ARROW;PAIRED ARROWS"),
  (0x21c8, "", "UPWARDS PAIRED ARROWS;RIGHTWARDS PAIRED ARROWS"),
  (0x21ca, "", "DOWNWARDS PAIRED ARROWS;LEFTWARDS HARPOON OVER RIGHTWARDS HARPOON"),
  (0x21cc, "", "RIGHTWARDS HARPOON OVER LEFTWARDS HARPOON;LEFTWARDS DOUBLE ARROW WITH STROKE"),
  (0x21ce, "", "LEFT RIGHT DOUBLE ARROW WITH STROKE;RIGHTWARDS DOUBLE ARROW WITH STROKE"),
  (0x21d0, "", "LEFTWARDS DOUBLE ARROW;UPWARDS DOUBLE ARROW;RIGHTWARDS DOUBLE ARROW"),
  (0x21d3, "", "DOWNWARDS DOUBLE ARROW;LEFT RIGHT DOUBLE ARROW;UP DOWN DOUBLE ARROW"),
  (0x21d6, "NORTH ", "WEST DOUBLE ARROW;EAST DOUBLE ARROW"),
  (0x21d8, "SOUTH ", "EAST DOUBLE ARROW;WEST DOUBLE ARROW"),
  (0x21da, "", "LEFTWARDS TRIPLE ARROW;RIGHTWARDS TRIPLE ARROW;LEFTWARDS SQUIGGLE ARROW"),
  (0x21dd, "", "RIGHTWARDS SQUIGGLE ARROW;UPWARDS ARROW WITH DOUBLE STROKE"),
  (0x21df, "", "DOWNWARDS ARROW WITH DOUBLE STROKE;LEFTWARDS DASHED ARROW"),
  (0x21e1, "", "UPWARDS DASHED ARROW;RIGHTWARDS DASHED ARROW;DOWNWARDS DASHED ARROW"),
  (0x21e4, "", "LEFTWARDS ARROW TO BAR;RIGHTWARDS ARROW TO BAR;LEFTWARDS WHITE ARROW"),
  (0x21e7, "", "UPWARDS WHITE ARROW;RIGHTWARDS WHITE ARROW;DOWNWARDS WHITE ARROW"),
  (0x21ea, "UPWARDS WHITE ARROW ", "FROM BAR;ON PEDESTAL"),
  (0x21ec, "UPWARDS WHITE ARROW ON PEDESTAL WITH ", "HORIZONTAL BAR;VERTICAL BAR"),
  (0x21ee, "UPWARDS WHITE DOUBLE ", "ARROW;ARROW ON PEDESTAL"),
  (0x21f0, "", "RIGHTWARDS WHITE ARROW FROM WALL;NORTH WEST ARROW TO CORNER"),
  (0x21f2, "", "SOUTH EAST ARROW TO CORNER;UP DOWN WHITE ARROW;RIGHT ARROW WITH SMALL CIRCLE"),
  (0x21f5, "", "DOWNWARDS ARROW LEFTWARDS OF UPWARDS ARROW;THREE RIGHTWARDS ARROWS"),
  (0x21f7, "", "LEFTWARDS ARROW WITH VERTICAL STROKE;RIGHTWARDS ARROW WITH VERTICAL STROKE"),
  (0x21f9, "", "LEFT RIGHT ARROW WITH VERTICAL STROKE;LEFTWARDS ARROW WITH DOUBLE VERTICAL STROKE"),
  (0x21fb, "", "RIGHTWARDS ARROW WITH DOUBLE VERTICAL STROKE"),
  (0x21fc, "", "LEFT RIGHT ARROW WITH DOUBLE VERTICAL STROKE;LEFTWARDS OPEN-HEADED ARROW"),
  (0x21fe, "", "RIGHTWARDS OPEN-HEADED ARROW;LEFT RIGHT OPEN-HEADED ARROW"),
  (0x2200, "", "FOR ALL;COMPLEMENT;PARTIAL DIFFERENTIAL;THERE EXISTS;THERE DOES NOT EXIST"),
  (0x2205, "", "EMPTY SET;INCREMENT;NABLA;ELEMENT OF;NOT AN ELEMENT OF;SMALL ELEMENT OF"),
  (0x220b, "", "CONTAINS AS MEMBER;DOES NOT CONTAIN AS MEMBER;SMALL CONTAINS AS MEMBER"),
  (0x220e, "", "END OF PROOF;N-ARY PRODUCT;N-ARY COPRODUCT;N-ARY SUMMATION"),
  (0x2212, "", "MINUS SIGN;MINUS-OR-PLUS SIGN;DOT PLUS;DIVISION SLASH;SET MINUS;ASTERISK OPERATOR"),
  (0x2218, "", "RING OPERATOR;BULLET OPERATOR;SQUARE ROOT;CUBE ROOT;FOURTH ROOT;PROPORTIONAL TO"),
  (0x221e, "", "INFINITY;RIGHT ANGLE;ANGLE;MEASURED ANGLE;SPHERICAL ANGLE;DIVIDES;DOES NOT DIVIDE"),
  (0x2225, "", "PARALLEL TO;NOT PARALLEL TO;LOGICAL AND;LOGICAL OR;INTERSECTION;UNION;INTEGRAL"),
  (0x222c, "", "DOUBLE INTEGRAL;TRIPLE INTEGRAL;CONTOUR INTEGRAL;SURFACE INTEGRAL;VOLUME INTEGRAL"),
  (0x2231, "", "CLOCKWISE INTEGRAL;CLOCKWISE CONTOUR INTEGRAL;ANTICLOCKWISE CONTOUR INTEGRAL"),
  (0x2234, "", "THEREFORE;BECAUSE;RATIO;PROPORTION;DOT MINUS;EXCESS;GEOMETRIC PROPORTION"),
  (0x223b, "", "HOMOTHETIC;TILDE OPERATOR;REVERSED TILDE;INVERTED LAZY S;SINE WAVE;WREATH PRODUCT"),
  (0x2241, "", "NOT TILDE;MINUS TILDE;ASYMPTOTICALLY EQUAL TO;NOT ASYMPTOTICALLY EQUAL TO"),
  (0x2245, "APPROXIMATELY ", "EQUAL TO;BUT NOT ACTUALLY EQUAL TO"),
  (0x2247, "", "NEITHER APPROXIMATELY NOR ACTUALLY EQUAL TO;ALMOST EQUAL TO"),
  (0x2249, "", "NOT ALMOST EQUAL TO;ALMOST EQUAL OR EQUAL TO;TRIPLE TILDE;ALL EQUAL TO"),
  (0x224d, "", "EQUIVALENT TO;GEOMETRICALLY EQUIVALENT TO;DIFFERENCE BETWEEN;APPROACHES THE LIMIT"),
  (0x2251, "", "GEOMETRICALLY EQUAL TO;APPROXIMATELY EQUAL TO OR THE IMAGE OF"),
  (0x2253, "", "IMAGE OF OR APPROXIMATELY EQUAL TO;COLON EQUALS;EQUALS COLON;RING IN EQUAL TO"),
  (0x2257, "", "RING EQUAL TO;CORRESPONDS TO;ESTIMATES;EQUIANGULAR TO;STAR EQUALS;DELTA EQUAL TO"),
  (0x225d, "", "EQUAL TO BY DEFINITION;MEASURED BY;QUESTIONED EQUAL TO;NOT EQUAL TO"),
  (0x2261, "", "IDENTICAL TO;NOT IDENTICAL TO;STRICTLY EQUIVALENT TO;LESS-THAN OR EQUAL TO"),
  (0x2265, "", "GREATER-THAN OR EQUAL TO;LESS-THAN OVER EQUAL TO;GREATER-THAN OVER EQUAL TO"),
  (0x2268, "", "LESS-THAN BUT NOT EQUAL TO;GREATER-THAN BUT NOT EQUAL TO;MUCH LESS-THAN"),
  (0x226b, "", "MUCH GREATER-THAN;BETWEEN;NOT EQUIVALENT TO;NOT LESS-THAN;NOT GREATER-THAN"),
  (0x2270, "NEITHER ", "LESS-THAN NOR EQUAL TO;GREATER-THAN NOR EQUAL TO"),
  (0x2272, "", "LESS-THAN OR EQUIVALENT TO;GREATER-THAN OR EQUIVALENT TO"),
  (0x2274, "NEITHER ", "LESS-THAN NOR EQUIVALENT TO;GREATER-THAN NOR EQUIVALENT TO"),
  (0x2276, "", "LESS-THAN OR GREATER-THAN;GREATER-THAN OR LESS-THAN"),
  (0x2278, "", "NEITHER LESS-THAN NOR GREATER-THAN;NEITHER GREATER-THAN NOR LESS-THAN;PRECEDES"),
  (0x227b, "", "SUCCEEDS;PRECEDES OR EQUAL TO;SUCCEEDS OR EQUAL TO;PRECEDES OR EQUIVALENT TO"),
  (0x227f, "", "SUCCEEDS OR EQUIVALENT TO;DOES NOT PRECEDE;DOES NOT SUCCEED;SUBSET OF;SUPERSET OF"),
  (0x2284, "", "NOT A SUBSET OF;NOT A SUPERSET OF;SUBSET OF OR EQUAL TO;SUPERSET OF OR EQUAL TO"),
  (0x2288, "NEITHER A ", "SUBSET OF NOR EQUAL TO;SUPERSET OF NOR EQUAL TO"),
  (0x228a, "", "SUBSET OF WITH NOT EQUAL TO;SUPERSET OF WITH NOT EQUAL TO;MULTISET"),
  (0x228d, "MULTISET ", "MULTIPLICATION;UNION"),
  (0x228f, "SQUARE ", "IMAGE OF;ORIGINAL OF;IMAGE OF OR EQUAL TO;ORIGINAL OF OR EQUAL TO;CAP;CUP"),
  (0x2295, "CIRCLED ", "PLUS;MINUS;TIMES"),
  (0x2298, "CIRCLED ", "DIVISION SLASH;DOT OPERATOR;RING OPERATOR;ASTERISK OPERATOR;EQUALS;DASH"),
  (0x229e, "SQUARED ", "PLUS;MINUS;TIMES;DOT OPERATOR"),
  (0x22a2, "", "RIGHT TACK;LEFT TACK;DOWN TACK"),
  (0x22a5, "", "UP TACK;ASSERTION;MODELS;TRUE;FORCES;TRIPLE VERTICAL BAR RIGHT TURNSTILE"),
  (0x22ab, "", "DOUBLE VERTICAL BAR DOUBLE RIGHT TURNSTILE;DOES NOT PROVE;NOT TRUE;DOES NOT FORCE"),
  (0x22af, "", "NEGATED DOUBLE VERTICAL BAR DOUBLE RIGHT TURNSTILE;PRECEDES UNDER RELATION"),
  (0x22b1, "", "SUCCEEDS UNDER RELATION;NORMAL SUBGROUP OF;CONTAINS AS NORMAL SUBGROUP"),
  (0x22b4, "", "NORMAL SUBGROUP OF OR EQUAL TO;CONTAINS AS NORMAL SUBGROUP OR EQUAL TO"),
  (0x22b6, "", "ORIGINAL OF;IMAGE OF;MULTIMAP;HERMITIAN CONJUGATE MATRIX;INTERCALATE;XOR;NAND;NOR"),
  (0x22be, "RIGHT ", "ANGLE WITH ARC;TRIANGLE"),
  (0x22c0, "N-ARY ", "LOGICAL AND;LOGICAL OR;INTERSECTION;UNION"),
  (0x22c4, "", "DIAMOND OPERATOR;DOT OPERATOR;STAR OPERATOR;DIVISION TIMES;BOWTIE"),
  (0x22c9, "", "LEFT NORMAL FACTOR SEMIDIRECT PRODUCT;RIGHT NORMAL FACTOR SEMIDIRECT PRODUCT"),
  (0x22cb, "", "LEFT SEMIDIRECT PRODUCT;RIGHT SEMIDIRECT PRODUCT;REVERSED TILDE EQUALS"),
  (0x22ce, "CURLY LOGICAL ", "OR;AND"),
  (0x22d0, "DOUBLE ", "SUBSET;SUPERSET;INTERSECTION;UNION"),
  (0x22d4, "", "PITCHFORK;EQUAL AND PARALLEL TO;LESS-THAN WITH DOT;GREATER-THAN WITH DOT"),
  (0x22d8, "VERY MUCH ", "LESS-THAN;GREATER-THAN"),
  (0x22da, "", "LESS-THAN EQUAL TO OR GREATER-THAN;GREATER-THAN EQUAL TO OR LESS-THAN"),
  (0x22dc, "EQUAL TO OR ", "LESS-THAN;GREATER-THAN;PRECEDES;SUCCEEDS"),
  (0x22e0, "DOES NOT ", "PRECEDE OR EQUAL;SUCCEED OR EQUAL"),
  (0x22e2, "NOT SQUARE ", "IMAGE OF OR EQUAL TO;ORIGINAL OF OR EQUAL TO"),
  (0x22e4, "SQUARE ", "IMAGE OF OR NOT EQUAL TO;ORIGINAL OF OR NOT EQUAL TO"),
  (0x22e6, "", "LESS-THAN BUT NOT EQUIVALENT TO;GREATER-THAN BUT NOT EQUIVALENT TO"),
  (0x22e8, "", "PRECEDES BUT NOT EQUIVALENT TO;SUCCEEDS BUT NOT EQUIVALENT TO"),
  (0x22ea, "", "NOT NORMAL SUBGROUP OF;DOES NOT CONTAIN AS NORMAL SUBGROUP"),
  (0x22ec, "", "NOT NORMAL SUBGROUP OF OR EQUAL TO;DOES NOT CONTAIN AS NORMAL SUBGROUP OR EQUAL"),
  (0x22ee, "", "VERTICAL ELLIPSIS;MIDLINE HORIZONTAL ELLIPSIS"),
  (0x22f0, "", "UP RIGHT DIAGONAL ELLIPSIS;DOWN RIGHT DIAGONAL ELLIPSIS"),
  (0x22f2, "ELEMENT OF WITH ", "LONG HORIZONTAL STROKE;VERTICAL BAR AT END OF HORIZONTAL STROKE"),
  (0x22f4, "", "SMALL ELEMENT OF WITH VERTICAL BAR AT END OF HORIZONTAL STROKE"),
  (0x22f5, "", "ELEMENT OF WITH DOT ABOVE;ELEMENT OF WITH OVERBAR;SMALL ELEMENT OF WITH OVERBAR"),
  (0x22f8, "ELEMENT OF WITH ", "UNDERBAR;TWO HORIZONTAL STROKES"),
  (0x22fa, "CONTAINS WITH ", "LONG HORIZONTAL STROKE;VERTICAL BAR AT END OF HORIZONTAL STROKE"),
  (0x22fc, "", "SMALL CONTAINS WITH VERTICAL BAR AT END OF HORIZONTAL STROKE"),
  (0x22fd, "", "CONTAINS WITH OVERBAR;SMALL CONTAINS WITH OVERBAR;Z NOTATION BAG MEMBERSHIP"),
  (0x2300, "", "DIAMETER SIGN;ELECTRIC ARROW;HOUSE;UP ARROWHEAD;DOWN ARROWHEAD;PROJECTIVE"),
  (0x2306, "", "PERSPECTIVE;WAVY LINE;LEFT CEILING;RIGHT CEILING;LEFT FLOOR;RIGHT FLOOR"),
  (0x230c, "", "BOTTOM RIGHT CROP;BOTTOM LEFT CROP;TOP RIGHT CROP;TOP LEFT CROP;REVERSED NOT SIGN"),
  (0x2311, "", "SQUARE LOZENGE;ARC;SEGMENT;SECTOR;TELEPHONE RECORDER;POSITION INDICATOR"),
  (0x2317, "", "VIEWDATA SQUARE;PLACE OF INTEREST SIGN;TURNED NOT SIGN;WATCH;HOURGLASS"),
  (0x2500, "BOX DRAWINGS ", "LIGHT HORIZONTAL;HEAVY HORIZONTAL;LIGHT VERTICAL;HEAVY VERTICAL"),
  (0x2580, "", "UPPER HALF BLOCK;LOWER ONE EIGHTH BLOCK;LOWER ONE QUARTER BLOCK"),
  (0x2583, "LOWER ", "THREE EIGHTHS BLOCK;HALF BLOCK;FIVE EIGHTHS BLOCK;THREE QUARTERS BLOCK"),
  (0x2587, "", "LOWER SEVEN EIGHTHS BLOCK;FULL BLOCK;LEFT SEVEN EIGHTHS BLOCK"),
  (0x258a, "LEFT ", "THREE QUARTERS BLOCK;FIVE EIGHTHS BLOCK;HALF BLOCK;THREE EIGHTHS BLOCK"),
  (0x258e, "", "LEFT ONE QUARTER BLOCK;LEFT ONE EIGHTH BLOCK;RIGHT HALF BLOCK"),
  (0x2591, "", "LIGHT SHADE;MEDIUM SHADE;DARK SHADE;UPPER ONE EIGHTH BLOCK;RIGHT ONE EIGHTH BLOCK"),
  (0x2596, "QUADRANT ", "LOWER LEFT;LOWER RIGHT;UPPER LEFT"),
  (0x2599, "QUADRANT UPPER LEFT AND LOWER ", "LEFT AND LOWER RIGHT;RIGHT"),
  (0x259b, "QUADRANT UPPER LEFT AND UPPER RIGHT AND LOWER ", "LEFT;RIGHT"),
  (0x259d, "QUADRANT UPPER ", "RIGHT;RIGHT AND LOWER LEFT;RIGHT AND LOWER LEFT AND LOWER RIGHT"),
  (0x25a0, "", "BLACK SQUARE;WHITE SQUARE"),
  (0x25a2, "WHITE SQUARE ", "WITH ROUNDED CORNERS;CONTAINING BLACK SMALL SQUARE"),
  (0x25a4, "SQUARE WITH ", "HORIZONTAL FILL;VERTICAL FILL;ORTHOGONAL CROSSHATCH FILL"),
  (0x25a7, "SQUARE WITH UPPER ", "LEFT TO LOWER RIGHT FILL;RIGHT TO LOWER LEFT FILL"),
  (0x25a9, "", "SQUARE WITH DIAGONAL CROSSHATCH FILL"),
  (0x25aa, "", "BLACK SMALL SQUARE;WHITE SMALL SQUARE;BLACK RECTANGLE;WHITE RECTANGLE"),
  (0x25ae, "", "BLACK VERTICAL RECTANGLE;WHITE VERTICAL RECTANGLE;BLACK PARALLELOGRAM"),
  (0x25b1, "", "WHITE PARALLELOGRAM;BLACK UP-POINTING TRIANGLE;WHITE UP-POINTING TRIANGLE"),
  (0x25b4, "", "BLACK UP-POINTING SMALL TRIANGLE;WHITE UP-POINTING SMALL TRIANGLE"),
  (0x25b6, "", "BLACK RIGHT-POINTING TRIANGLE;WHITE RIGHT-POINTING TRIANGLE"),
  (0x25b8, "", "BLACK RIGHT-POINTING SMALL TRIANGLE;WHITE RIGHT-POINTING SMALL TRIANGLE"),
  (0x25ba, "", "BLACK RIGHT-POINTING POINTER;WHITE RIGHT-POINTING POINTER"),
  (0x25bc, "", "BLACK DOWN-POINTING TRIANGLE;WHITE DOWN-POINTING TRIANGLE"),
  (0x25be, "", "BLACK DOWN-POINTING SMALL TRIANGLE;WHITE DOWN-POINTING SMALL TRIANGLE"),
  (0x25c0, "", "BLACK LEFT-POINTING TRIANGLE;WHITE LEFT-POINTING TRIANGLE"),
  (0x25c2, "", "BLACK LEFT-POINTING SMALL TRIANGLE;WHITE LEFT-POINTING SMALL TRIANGLE"),
  (0x25c4, "", "BLACK LEFT-POINTING POINTER;WHITE LEFT-POINTING POINTER;BLACK DIAMOND"),
  (0x25c7, "", "WHITE DIAMOND;WHITE DIAMOND CONTAINING BLACK SMALL DIAMOND;FISHEYE;LOZENGE"),
  (0x25cb, "", "WHITE CIRCLE;DOTTED CIRCLE;CIRCLE WITH VERTICAL FILL;BULLSEYE;BLACK CIRCLE"),
  (0x25d0, "CIRCLE WITH ", "LEFT HALF BLACK;RIGHT HALF BLACK;LOWER HALF BLACK;UPPER HALF BLACK"),
  (0x25d4, "CIRCLE WITH ", "UPPER RIGHT QUADRANT BLACK;ALL BUT UPPER LEFT QUADRANT BLACK"),
  (0x25d6, "", "LEFT HALF BLACK CIRCLE;RIGHT HALF BLACK CIRCLE"),
  (0x25d8, "INVERSE ", "BULLET;WHITE CIRCLE"),
  (0x25da, "", "UPPER HALF INVERSE WHITE CIRCLE;LOWER HALF INVERSE WHITE CIRCLE"),
  (0x25dc, "UPPER ", "LEFT QUADRANT CIRCULAR ARC;RIGHT QUADRANT CIRCULAR ARC"),
  (0x25de, "LOWER ", "RIGHT QUADRANT CIRCULAR ARC;LEFT QUADRANT CIRCULAR ARC"),
  (0x25e0, "", "UPPER HALF CIRCLE;LOWER HALF CIRCLE;BLACK LOWER RIGHT TRIANGLE"),
  (0x25e3, "BLACK ", "LOWER LEFT TRIANGLE;UPPER LEFT TRIANGLE;UPPER RIGHT TRIANGLE"),
  (0x25e6, "", "WHITE BULLET;SQUARE WITH LEFT HALF BLACK;SQUARE WITH RIGHT HALF BLACK"),
  (0x25e9, "SQUARE WITH ", "UPPER LEFT DIAGONAL HALF BLACK;LOWER RIGHT DIAGONAL HALF BLACK"),
  (0x25eb, "WHITE ", "SQUARE WITH VERTICAL BISECTING LINE;UP-POINTING TRIANGLE WITH DOT"),
  (0x25ed, "UP-POINTING TRIANGLE WITH ", "LEFT HALF BLACK;RIGHT HALF BLACK"),
  (0x25ef, "", "LARGE CIRCLE;WHITE SQUARE WITH UPPER LEFT QUADRANT"),
  (0x25f1, "WHITE SQUARE WITH ", "LOWER LEFT QUADRANT;LOWER RIGHT QUADRANT;UPPER RIGHT QUADRANT"),
  (0x25f4, "WHITE CIRCLE WITH ", "UPPER LEFT QUADRANT;LOWER LEFT QUADRANT;LOWER RIGHT QUADRANT"),
  (0x25f7, "", "WHITE CIRCLE WITH UPPER RIGHT QUADRANT;UPPER LEFT TRIANGLE"),
  (0x25f9, "", "UPPER RIGHT TRIANGLE;LOWER LEFT TRIANGLE;WHITE MEDIUM SQUARE;BLACK MEDIUM SQUARE"),
  (0x25fd, "", "WHITE MEDIUM SMALL SQUARE;BLACK MEDIUM SMALL SQUARE;LOWER RIGHT TRIANGLE"),
  (0x2600, "", "BLACK SUN WITH RAYS;CLOUD;UMBRELLA;SNOWMAN;COMET;BLACK STAR"),
  (0x2606, "", "WHITE STAR;LIGHTNING;THUNDERSTORM;SUN;ASCENDING NODE;DESCENDING NODE;CONJUNCTION"),
  (0x260d, "", "OPPOSITION;BLACK TELEPHONE;WHITE TELEPHONE;BALLOT BOX;BALLOT BOX WITH CHECK"),
  (0x2612, "", "BALLOT BOX WITH X;SALTIRE;UMBRELLA WITH RAIN DROPS;HOT BEVERAGE"),
  (0x2616, "", "WHITE SHOGI PIECE;BLACK SHOGI PIECE;SHAMROCK;REVERSED ROTATED FLORAL HEART BULLET"),
  (0x261a, "", "BLACK LEFT POINTING INDEX;BLACK RIGHT POINTING INDEX;WHITE LEFT POINTING INDEX"),
  (0x261d, "WHITE ", "UP POINTING INDEX;RIGHT POINTING INDEX;DOWN POINTING INDEX"),
  (0x2620, "", "SKULL AND CROSSBONES;CAUTION SIGN;RADIOACTIVE SIGN;BIOHAZARD SIGN"),
  (0x2624, "", "CADUCEUS;ANKH;ORTHODOX CROSS;CHI RHO;CROSS OF LORRAINE;CROSS OF JERUSALEM"),
  (0x262a, "", "STAR AND CRESCENT;FARSI SYMBOL;ADI SHAKTI;HAMMER AND SICKLE;PEACE SYMBOL;YIN YANG"),
  (0x2630, "TRIGRAM FOR ", "HEAVEN;LAKE;FIRE;THUNDER;WIND;WATER;MOUNTAIN;EARTH"),
  (0x2638, "", "WHEEL OF DHARMA;WHITE FROWNING FACE;WHITE SMILING FACE;BLACK SMILING FACE"),
  (0x263c, "", "WHITE SUN WITH RAYS;FIRST QUARTER MOON;LAST QUARTER MOON;MERCURY"),
  (0x2640, "", "FEMALE SIGN;EARTH;MALE SIGN;JUPITER;SATURN;URANUS;NEPTUNE;PLUTO;ARIES;TAURUS"),
  (0x264a, "", "GEMINI;CANCER;LEO;VIRGO;LIBRA;SCORPIUS;SAGITTARIUS;CAPRICORN;AQUARIUS;PISCES"),
  (0x2654, "WHITE CHESS ", "KING;QUEEN;ROOK;BISHOP;KNIGHT;PAWN"),
  (0x265a, "BLACK CHESS ", "KING;QUEEN;ROOK;BISHOP;KNIGHT;PAWN"),
  (0x2660, "", "BLACK SPADE SUIT;WHITE HEART SUIT;WHITE DIAMOND SUIT;BLACK CLUB SUIT"),
  (0x2664, "", "WHITE SPADE SUIT;BLACK HEART SUIT;BLACK DIAMOND SUIT;WHITE CLUB SUIT"),
  (0x2668, "", "HOT SPRINGS;QUARTER NOTE;EIGHTH NOTE;BEAMED EIGHTH NOTES;BEAMED SIXTEENTH NOTES"),
  (0x266d, "MUSIC ", "FLAT SIGN;NATURAL SIGN;SHARP SIGN"),
  (0x2670, "", "WEST SYRIAC CROSS;EAST SYRIAC CROSS;UNIVERSAL RECYCLING SYMBOL"),
  (0x2673, "RECYCLING SYMBOL FOR ", "TYPE-1 PLASTICS;TYPE-2 PLASTICS"),
  (0x2675, "RECYCLING SYMBOL FOR ", "TYPE-3 PLASTICS;TYPE-4 PLASTICS;TYPE-5 PLASTICS"),
  (0x2678, "RECYCLING SYMBOL FOR ", "TYPE-6 PLASTICS;TYPE-7 PLASTICS;GENERIC MATERIALS"),
  (0x267b, "", "BLACK UNIVERSAL RECYCLING SYMBOL;RECYCLED PAPER SYMBOL"),
  (0x267d, "", "PARTIALLY-RECYCLED PAPER SYMBOL;PERMANENT PAPER SIGN;WHEELCHAIR SYMBOL"),
  (0x2680, "DIE ", "FACE-1;FACE-2;FACE-3;FACE-4;FACE-5;FACE-6"),
  (0x2686, "WHITE CIRCLE WITH ", "DOT RIGHT;TWO DOTS"),
  (0x2688, "BLACK CIRCLE WITH ", "WHITE DOT RIGHT;TWO WHITE DOTS"),
  (0x268a, "MONOGRAM FOR ", "YANG;YIN"),
  (0x268c, "DIGRAM FOR ", "GREATER YANG;LESSER YIN;LESSER YANG;GREATER YIN"),
  (0x2690, "", "WHITE FLAG;BLACK FLAG;HAMMER AND PICK;ANCHOR"),
  (0x2694, "", "CROSSED SWORDS;STAFF OF AESCULAPIUS;SCALES;ALEMBIC;FLOWER;GEAR;STAFF OF HERMES"),
  (0x269b, "", "ATOM SYMBOL;FLEUR-DE-LIS;OUTLINED WHITE STAR;THREE LINES CONVERGING RIGHT"),
  (0x269f, "", "THREE LINES CONVERGING LEFT;WARNING SIGN;HIGH VOLTAGE SIGN;DOUBLED FEMALE SIGN"),
  (0x26a3, "", "DOUBLED MALE SIGN;INTERLOCKED FEMALE AND MALE SIGN;MALE AND FEMALE SIGN"),
  (0x26a6, "MALE WITH STROKE ", "SIGN;AND MALE AND FEMALE SIGN"),
  (0x26a8, "", "VERTICAL MALE WITH STROKE SIGN;HORIZONTAL MALE WITH STROKE SIGN"),
  (0x26aa, "MEDIUM ", "WHITE CIRCLE;BLACK CIRCLE;SMALL WHITE CIRCLE"),
  (0x26ad, "", "MARRIAGE SYMBOL;DIVORCE SYMBOL;UNMARRIED PARTNERSHIP SYMBOL"),
  (0x26b0, "", "COFFIN;FUNERAL URN;NEUTER;CERES;PALLAS;JUNO;VESTA;CHIRON;BLACK MOON LILITH"),
  (0x26b9, "", "SEXTILE;SEMISEXTILE;QUINCUNX;SESQUIQUADRATE;SOCCER BALL;BASEBALL;SQUARED KEY"),
  (0x26c0, "WHITE DRAUGHTS ", "MAN;KING"),
  (0x26c2, "", "BLACK DRAUGHTS MAN;BLACK DRAUGHTS KING;SNOWMAN WITHOUT SNOW;SUN BEHIND CLOUD"),
  (0x26c6, "", "RAIN;BLACK SNOWMAN;THUNDER CLOUD AND RAIN;TURNED WHITE SHOGI PIECE"),
  (0x26ca, "", "TURNED BLACK SHOGI PIECE;WHITE DIAMOND IN SQUARE;CROSSING LANES;DISABLED CAR"),
  (0x26ce, "", "OPHIUCHUS;PICK;CAR SLIDING;HELMET WITH WHITE CROSS;CIRCLED CROSSING LANES"),
  (0x26d3, "", "CHAINS;NO ENTRY;ALTERNATE ONE-WAY LEFT WAY TRAFFIC;BLACK TWO-WAY LEFT WAY TRAFFIC"),
  (0x26d7, "", "WHITE TWO-WAY LEFT WAY TRAFFIC;BLACK LEFT LANE MERGE;WHITE LEFT LANE MERGE"),
  (0x26da, "", "DRIVE SLOW SIGN;HEAVY WHITE DOWN-POINTING TRIANGLE;LEFT CLOSED ENTRY"),
  (0x26dd, "", "SQUARED SALTIRE;FALLING DIAGONAL IN WHITE CIRCLE IN BLACK SQUARE;BLACK TRUCK"),
  (0x26e0, "RESTRICTED LEFT ", "ENTRY-1;ENTRY-2"),
  (0x26e2, "", "ASTRONOMICAL SYMBOL FOR URANUS;HEAVY CIRCLE WITH STROKE AND TWO DOTS ABOVE"),
  (0x26e4, "", "PENTAGRAM;RIGHT-HANDED INTERLACED PENTAGRAM"),
  (0x26e6, "", "LEFT-HANDED INTERLACED PENTAGRAM;INVERTED PENTAGRAM"),
  (0x26e8, "", "BLACK CROSS ON SHIELD;SHINTO SHRINE;CHURCH;CASTLE;HISTORIC SITE"),
  (0x26ed, "", "GEAR WITHOUT HUB;GEAR WITH HANDLES;MAP SYMBOL FOR LIGHTHOUSE;MOUNTAIN"),
  (0x26f1, "", "UMBRELLA ON GROUND;FOUNTAIN;FLAG IN HOLE;FERRY;SAILBOAT;SQUARE FOUR CORNERS;SKIER"),
  (0x26f8, "", "ICE SKATE;PERSON WITH BALL;TENT;JAPANESE BANK SYMBOL;HEADSTONE GRAVEYARD SYMBOL"),
  (0x26fd, "", "FUEL PUMP;CUP ON BLACK SQUARE;WHITE FLAG WITH HORIZONTAL MIDDLE BLACK STRIPE"),
  (0x2701, "", "UPPER BLADE SCISSORS;BLACK SCISSORS;LOWER BLADE SCISSORS;WHITE SCISSORS"),
  (0x2705, "", "WHITE HEAVY CHECK MARK;TELEPHONE LOCATION SIGN;TAPE DRIVE;AIRPLANE;ENVELOPE"),
  (0x270a, "RAISED ", "FIST;HAND"),
  (0x270c, "", "VICTORY HAND;WRITING HAND;LOWER RIGHT PENCIL;PENCIL;UPPER RIGHT PENCIL;WHITE NIB"),
  (0x2712, "", "BLACK NIB;CHECK MARK;HEAVY CHECK MARK;MULTIPLICATION X;HEAVY MULTIPLICATION X"),
  (0x2717, "", "BALLOT X;HEAVY BALLOT X;OUTLINED GREEK CROSS;HEAVY GREEK CROSS"),
  (0x271b, "", "OPEN CENTRE CROSS;HEAVY OPEN CENTRE CROSS;LATIN CROSS;SHADOWED WHITE LATIN CROSS"),
  (0x271f, "", "OUTLINED LATIN CROSS;MALTESE CROSS;STAR OF DAVID;FOUR TEARDROP-SPOKED ASTERISK"),
  (0x2723, "", "FOUR BALLOON-SPOKED ASTERISK;HEAVY FOUR BALLOON-SPOKED ASTERISK"),
  (0x2725, "", "FOUR CLUB-SPOKED ASTERISK;BLACK FOUR POINTED STAR;WHITE FOUR POINTED STAR"),
  (0x2728, "", "SPARKLES;STRESS OUTLINED WHITE STAR;CIRCLED WHITE STAR;OPEN CENTRE BLACK STAR"),
  (0x272c, "", "BLACK CENTRE WHITE STAR;OUTLINED BLACK STAR;HEAVY OUTLINED BLACK STAR"),
  (0x272f, "", "PINWHEEL STAR;SHADOWED WHITE STAR;HEAVY ASTERISK;OPEN CENTRE ASTERISK"),
  (0x2733, "EIGHT ", "SPOKED ASTERISK;POINTED BLACK STAR;POINTED PINWHEEL STAR"),
  (0x2736, "", "SIX POINTED BLACK STAR"),
  (0x2737, "", "EIGHT POINTED RECTILINEAR BLACK STAR;HEAVY EIGHT POINTED RECTILINEAR BLACK STAR"),
  (0x2739, "", "TWELVE POINTED BLACK STAR;SIXTEEN POINTED ASTERISK"),
  (0x273b, "", "TEARDROP-SPOKED ASTERISK;OPEN CENTRE TEARDROP-SPOKED ASTERISK"),
  (0x273d, "", "HEAVY TEARDROP-SPOKED ASTERISK;SIX PETALLED BLACK AND WHITE FLORETTE"),
  (0x273f, "", "BLACK FLORETTE;WHITE FLORETTE;EIGHT PETALLED OUTLINED BLACK FLORETTE"),
  (0x2742, "", "CIRCLED OPEN CENTRE EIGHT POINTED STAR;HEAVY TEARDROP-SPOKED PINWHEEL ASTERISK"),
  (0x2744, "", "SNOWFLAKE;TIGHT TRIFOLIATE SNOWFLAKE;HEAVY CHEVRON SNOWFLAKE;SPARKLE"),
  (0x2748, "", "HEAVY SPARKLE;BALLOON-SPOKED ASTERISK;EIGHT TEARDROP-SPOKED PROPELLER ASTERISK"),
  (0x274b, "", "HEAVY EIGHT TEARDROP-SPOKED PROPELLER ASTERISK;CROSS MARK;SHADOWED WHITE CIRCLE"),
  (0x274e, "", "NEGATIVE SQUARED CROSS MARK;LOWER RIGHT DROP-SHADOWED WHITE SQUARE"),
  (0x2750, "", "UPPER RIGHT DROP-SHADOWED WHITE SQUARE;LOWER RIGHT SHADOWED WHITE SQUARE"),
  (0x2752, "", "UPPER RIGHT SHADOWED WHITE SQUARE;BLACK QUESTION MARK ORNAMENT"),
  (0x2754, "WHITE ", "QUESTION MARK ORNAMENT;EXCLAMATION MARK ORNAMENT"),
  (0x2756, "", "BLACK DIAMOND MINUS WHITE X;HEAVY EXCLAMATION MARK SYMBOL"),
  (0x2758, "", "LIGHT VERTICAL BAR;MEDIUM VERTICAL BAR;HEAVY VERTICAL BAR"),
  (0x275b, "HEAVY SINGLE ", "TURNED COMMA QUOTATION MARK ORNAMENT;COMMA QUOTATION MARK ORNAMENT"),
  (0x275d, "HEAVY DOUBLE ", "TURNED COMMA QUOTATION MARK ORNAMENT;COMMA QUOTATION MARK ORNAMENT"),
  (0x275f, "", "HEAVY LOW SINGLE COMMA QUOTATION MARK ORNAMENT"),
  (0x2760, "", "HEAVY LOW DOUBLE COMMA QUOTATION MARK ORNAMENT"),
  (0x2761, "", "CURVED STEM PARAGRAPH SIGN ORNAMENT"),
  (0x2762, "HEAVY ", "EXCLAMATION MARK ORNAMENT;HEART EXCLAMATION MARK ORNAMENT;BLACK HEART"),
  (0x2765, "", "ROTATED HEAVY BLACK HEART BULLET;FLORAL HEART;ROTATED FLORAL HEART BULLET"),
  (0x2768, "MEDIUM ", "LEFT PARENTHESIS ORNAMENT;RIGHT PARENTHESIS ORNAMENT"),
  (0x276a, "MEDIUM FLATTENED ", "LEFT PARENTHESIS ORNAMENT;RIGHT PARENTHESIS ORNAMENT"),
  (0x276c, "MEDIUM ", "LEFT-POINTING ANGLE BRACKET ORNAMENT;RIGHT-POINTING ANGLE BRACKET ORNAMENT"),
  (0x276e, "", "HEAVY LEFT-POINTING ANGLE QUOTATION MARK ORNAMENT"),
  (0x276f, "", "HEAVY RIGHT-POINTING ANGLE QUOTATION MARK ORNAMENT"),
  (0x2770, "HEAVY ", "LEFT-POINTING ANGLE BRACKET ORNAMENT;RIGHT-POINTING ANGLE BRACKET ORNAMENT"),
  (0x2772, "LIGHT ", "LEFT TORTOISE SHELL BRACKET ORNAMENT;RIGHT TORTOISE SHELL BRACKET ORNAMENT"),
  (0x2774, "MEDIUM ", "LEFT CURLY BRACKET ORNAMENT;RIGHT CURLY BRACKET ORNAMENT"),
  (0x2776, "DINGBAT NEGATIVE CIRCLED DIGIT ", "ONE;TWO;THREE;FOUR;FIVE;SIX;SEVEN;EIGHT;NINE"),
  (0x277f, "", "DINGBAT NEGATIVE CIRCLED NUMBER TEN"),
  (0x2780, "DINGBAT CIRCLED SANS-SERIF DIGIT ", "ONE;TWO;THREE;FOUR;FIVE;SIX;SEVEN;EIGHT;NINE"),
  (0x2789, "", "DINGBAT CIRCLED SANS-SERIF NUMBER TEN"),
  (0x278a, "DINGBAT NEGATIVE CIRCLED SANS-SERIF DIGIT ", "ONE;TWO;THREE;FOUR;FIVE;SIX;SEVEN;EIGHT"),
  (0x2792, "DINGBAT NEGATIVE CIRCLED SANS-SERIF ", "DIGIT NINE;NUMBER TEN"),
  (0x2794, "HEAVY ", "WIDE-HEADED RIGHTWARDS ARROW;PLUS SIGN"),
  (0x2796, "HEAVY ", "MINUS SIGN;DIVISION SIGN;SOUTH EAST ARROW;RIGHTWARDS ARROW;NORTH EAST ARROW"),
  (0x279b, "", "DRAFTING POINT RIGHTWARDS ARROW"),
  (0x279c, "", "HEAVY ROUND-TIPPED RIGHTWARDS ARROW;TRIANGLE-HEADED RIGHTWARDS ARROW"),
  (0x279e, "", "HEAVY TRIANGLE-HEADED RIGHTWARDS ARROW;DASHED TRIANGLE-HEADED RIGHTWARDS ARROW"),
  (0x27a0, "", "HEAVY DASHED TRIANGLE-HEADED RIGHTWARDS ARROW;BLACK RIGHTWARDS ARROW"),
  (0x27a2, "THREE-D ", "TOP-LIGHTED RIGHTWARDS ARROWHEAD;BOTTOM-LIGHTED RIGHTWARDS ARROWHEAD"),
  (0x27a4, "", "BLACK RIGHTWARDS ARROWHEAD;HEAVY BLACK CURVED DOWNWARDS AND RIGHTWARDS ARROW"),
  (0x27a6, "", "HEAVY BLACK CURVED UPWARDS AND RIGHTWARDS ARROW;SQUAT BLACK RIGHTWARDS ARROW"),
  (0x27a8, "", "HEAVY CONCAVE-POINTED BLACK RIGHTWARDS ARROW;RIGHT-SHADED WHITE RIGHTWARDS ARROW"),
  (0x27aa, "", "LEFT-SHADED WHITE RIGHTWARDS ARROW;BACK-TILTED SHADOWED WHITE RIGHTWARDS ARROW"),
  (0x27ac, "", "FRONT-TILTED SHADOWED WHITE RIGHTWARDS ARROW"),
  (0x27ad, "", "HEAVY LOWER RIGHT-SHADOWED WHITE RIGHTWARDS ARROW"),
  (0x27ae, "", "HEAVY UPPER RIGHT-SHADOWED WHITE RIGHTWARDS ARROW"),
  (0x27af, "", "NOTCHED LOWER RIGHT-SHADOWED WHITE RIGHTWARDS ARROW"),
  (0x27b0, "", "CURLY LOOP;NOTCHED UPPER RIGHT-SHADOWED WHITE RIGHTWARDS ARROW"),
  (0x27b2, "", "CIRCLED HEAVY WHITE RIGHTWARDS ARROW;WHITE-FEATHERED RIGHTWARDS ARROW"),
  (0x27b4, "BLACK-FEATHERED ", "SOUTH EAST ARROW;RIGHTWARDS ARROW;NORTH EAST ARROW"),
  (0x27b7, "HEAVY BLACK-FEATHERED ", "SOUTH EAST ARROW;RIGHTWARDS ARROW;NORTH EAST ARROW"),
  (0x27ba, "", "TEARDROP-BARBED RIGHTWARDS ARROW;HEAVY TEARDROP-SHANKED RIGHTWARDS ARROW"),
  (0x27bc, "", "WEDGE-TAILED RIGHTWARDS ARROW;HEAVY WEDGE-TAILED RIGHTWARDS ARROW"),
  (0x27be, "", "OPEN-OUTLINED RIGHTWARDS ARROW;DOUBLE CURLY LOOP"),
  (0x3000, "", "IDEOGRAPHIC SPACE;IDEOGRAPHIC COMMA;IDEOGRAPHIC FULL STOP;DITTO MARK"),
  (0xfeff, "", "ZERO WIDTH NO-BREAK SPACE"),
  (0xfffc, "", "OBJECT REPLACEMENT CHARACTER;REPLACEMENT CHARACTER"),
  (0x1f600, "", "GRINNING FACE;GRINNING FACE WITH SMILING EYES;FACE WITH TEARS OF JOY"),
  (0x1f603, "SMILING FACE WITH OPEN ", "MOUTH;MOUTH AND SMILING EYES;MOUTH AND COLD SWEAT"),
  (0x1f606, "SMILING FACE WITH ", "OPEN MOUTH AND TIGHTLY-CLOSED EYES;HALO;HORNS"),
  (0x1f609, "", "WINKING FACE"),
  (0x1f60a, "", "SMILING FACE WITH SMILING EYES;FACE SAVOURING DELICIOUS FOOD;RELIEVED FACE"),
  (0x1f60d, "", "SMILING FACE WITH HEART-SHAPED EYES;SMILING FACE WITH SUNGLASSES;SMIRKING FACE"),
  (0x1f610, "", "NEUTRAL FACE;EXPRESSIONLESS FACE;UNAMUSED FACE;FACE WITH COLD SWEAT"),
  (0x1f614, "", "PENSIVE FACE;CONFUSED FACE;CONFOUNDED FACE;KISSING FACE;FACE THROWING A KISS"),
  (0x1f619, "KISSING FACE WITH ", "SMILING EYES;CLOSED EYES"),
  (0x1f61b, "FACE WITH STUCK-OUT ", "TONGUE;TONGUE AND WINKING EYE;TONGUE AND TIGHTLY-CLOSED EYES"),
  (0x1f61e, "", "DISAPPOINTED FACE;WORRIED FACE;ANGRY FACE;POUTING FACE;CRYING FACE"),
  (0x1f623, "", "PERSEVERING FACE;FACE WITH LOOK OF TRIUMPH;DISAPPOINTED BUT RELIEVED FACE"),
  (0x1f626, "", "FROWNING FACE WITH OPEN MOUTH;ANGUISHED FACE;FEARFUL FACE;WEARY FACE;SLEEPY FACE"),
  (0x1f62b, "", "TIRED FACE;GRIMACING FACE;LOUDLY CRYING FACE;FACE WITH OPEN MOUTH;HUSHED FACE"),
  (0x1f630, "", "FACE WITH OPEN MOUTH AND COLD SWEAT;FACE SCREAMING IN FEAR;ASTONISHED FACE"),
  (0x1f633, "", "FLUSHED FACE;SLEEPING FACE;DIZZY FACE;FACE WITHOUT MOUTH;FACE WITH MEDICAL MASK"),
  (0x1f638, "", "GRINNING CAT FACE WITH SMILING EYES;CAT FACE WITH TEARS OF JOY"),
  (0x1f63a, "SMILING CAT FACE WITH ", "OPEN MOUTH;HEART-SHAPED EYES"),
  (0x1f63c, "", "CAT FACE WITH WRY SMILE"),
  (0x1f63d, "", "KISSING CAT FACE WITH CLOSED EYES;POUTING CAT FACE;CRYING CAT FACE"),
  (0x1f640, "", "WEARY CAT FACE;SLIGHTLY FROWNING FACE;SLIGHTLY SMILING FACE;UPSIDE-DOWN FACE"),
  (0x1f644, "FACE WITH ", "ROLLING EYES;NO GOOD GESTURE;OK GESTURE"),
  (0x1f647, "", "PERSON BOWING DEEPLY;SEE-NO-EVIL MONKEY;HEAR-NO-EVIL MONKEY;SPEAK-NO-EVIL MONKEY"),
  (0x1f64b, "", "HAPPY PERSON RAISING ONE HAND;PERSON RAISING BOTH HANDS IN CELEBRATION"),
  (0x1f64d, "PERSON ", "FROWNING;WITH POUTING FACE;WITH FOLDED HANDS")
]

/-- Further names of characters. -/
def characterNames : List (String × Nat) :=
  [("NUL", 0), ("BEL", 7), ("BS", 8), ("TAB", 9), ("HT", 9), ("HORIZONTAL TABULATION", 9),
    ("LF", 10), ("NL", 10), ("EOL", 10), ("NEW LINE", 10), ("END OF LINE", 10), ("VT", 11),
    ("FF", 12), ("CR", 13), ("SO", 14), ("SI", 15), ("CAN", 24), ("ESC", 27), ("SP", 32),
    ("DEL", 127), ("DELETE", 127), ("NEL", 133), ("NEXT LINE", 133), ("NBSP", 160), ("SHY", 173),
    ("CGJ", 847), ("ZWSP", 8203), ("ZWNJ", 8204), ("ZWJ", 8205), ("LRM", 8206), ("RLM", 8207),
    ("NNBSP", 8239), ("WJ", 8288), ("BOM", 65279), ("BYTE ORDER MARK", 65279), ("ZWNBSP", 65279)]

/-- The number of a character by its name in a row. -/
def numberInRow? (name : List Char) (row : Nat × String × String) : Option Nat :=
  let start := row.2.1.toList
  if start.isPrefixOf name then
    let rest := name.drop start.length
    let place := (row.2.2.toList.splitOn ';').findIdx? (· == rest)
    place.map (row.1 + ·)
  else none

/-- The character of a name, in capitals or not. -/
def characterOf? (name : String) : Option Char :=
  let capitals := name.toList.map Char.toUpper
  let number := (nameRows.findSome? (numberInRow? capitals)).or
    (characterNames.lookup (String.ofList capitals))
  number.map Char.ofNat

example : numberInRow? "DIGIT ONE".toList (0x30, "DIGIT ", "ZERO;ONE;TWO") = some 0x31 ∧
    numberInRow? "DIGIT".toList (0x30, "DIGIT ", "ZERO;ONE;TWO") = none := by decide +kernel

end ServiceDocs.Text
