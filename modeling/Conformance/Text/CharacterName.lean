/-!
# Names of characters

The names that the Unicode standard gives to characters. Ideographs and syllables have names by a
rule, and those of the first 256 characters are listed in full. All other names are known by how
they begin: a name of one or two words is in the list, and a longer one is taken for a name if its
first two words begin one. The digits of a word and what follows them do not count.
-/

namespace Conformance.Text

/-- The first words of names, each with the second words of the names that begin with it. A full
stop marks the end of a name, and a semicolon that of the second words. -/
def nameBeginnings : List String := [
  "ABACUS.; AC CURRENT.; ACCORDION.; ACCOUNT OF.; ACK.; ACKNOWLEDGE.; ACTIVATE ARABIC SYMMETRIC;",
  "ACUTE ACCENT. ANGLE.; ADDRESSED TO; ADHESIVE BANDAGE.; ADI SHAKTI.; ADLAM ALIF CAPITAL",
  "CONSONANT DIGIT GEMINATE GEMINATION HAMZA. INITIAL NASALIZATION NUKTA. SMALL VOWEL; ADMETOS.;",
  "ADMISSION TICKETS.; ADULT.; AEGEAN CHECK DRY LIQUID MEASURE NUMBER WEIGHT WORD; AERIAL",
  "TRAMWAY.; AFGHANI SIGN.; AHOM CONSONANT DIGIT LETTER NUMBER SIGN SYMBOL VOWEL; AIRPLANE.",
  "ARRIVING. DEPARTURE.; AKTIESELSKAB.; ALARM CLOCK.; ALCHEMICAL SYMBOL; ALEF SYMBOL.; ALEMBIC.;",
  "ALERT.; ALIEN MONSTER.; ALL AROUND-PROFILE. EQUAL; ALM.; ALMOST EQUAL; ALTERNATE ONE-WAY;",
  "ALTERNATIVE KEY; AMALGAMATION OR; AMBULANCE.; AMERICAN FOOTBALL.; AMPERSAND.; AMPHORA.;",
  "ANATOLIAN HIEROGLYPH; ANATOMICAL HEART.; ANCHOR.; AND WITH; ANGER SYMBOL.; ANGLE. WITH; ANGRY",
  "FACE.; ANGSTROM SIGN.; ANGUISHED FACE.; ANKH.; ANT.; ANTENNA WITH; ANTICLOCKWISE CLOSED",
  "CONTOUR DOWNWARDS GAPPED INTEGRATION. OPEN TOP TRIANGLE-HEADED; APC.; APL FUNCTIONAL;",
  "APOLLON.; APOSTROPHE.; APPLICATION PROGRAM; APPROACHES THE; APPROXIMATELY BUT EQUAL;",
  "AQUARIUS.; ARABIC BASELINE COMMA. CURLY DAMMA DAMMA. DAMMATAN DAMMATAN. DATE DECIMAL DISPUTED",
  "DOUBLE DOUBLED EMPTY END FATHA FATHA. FATHATAN FATHATAN. FIVE FOOTNOTE FULL HALF HAMZA",
  "INVERTED KASRA KASRA. KASRATAN KASRATAN. LARGE LEFT LETTER LIGATURE MADDA MADDAH MARK",
  "MATHEMATICAL NUMBER OPEN PERCENT PIASTRE PLACE POETIC POUND QUESTION RAISED RAY. REVERSED",
  "RIGHT ROUNDED SEMICOLON. SHADDA SHADDA. SIGN SMALL START SUBSCRIPT SUKUN SUKUN. SUPERSCRIPT",
  "SYMBOL TAIL TATWEEL TATWEEL. THOUSANDS TONE TRIPLE TURNED VERTICAL VOWEL WAVY ZWARAKAY.;",
  "ARABIC-INDIC CUBE DIGIT FOURTH PER; ARC.; ARIES.; ARMENIAN ABBREVIATION APOSTROPHE. CAPITAL",
  "COMMA. DRAM EMPHASIS EXCLAMATION FULL HYPHEN. MODIFIER QUESTION SMALL; ARROW POINTING;",
  "ARROWHEAD-SHAPED POINTER.; ARTICULATED LORRY.; ARTIST PALETTE.; ASCENDING NODE.; ASCIA",
  "SYMBOL.; ASSERTION.; ASTERISK. OPERATOR.; ASTERISM.; ASTONISHED FACE.; ASTRAEA.; ASTRONOMICAL",
  "SYMBOL; ASYMPTOTICALLY EQUAL; ATHLETIC SHOE.; ATOM SYMBOL.; AUBERGINE.; AUSTRAL SIGN.; AUTO",
  "RICKSHAW.; AUTOMATED TELLER; AUTOMOBILE.; AVESTAN ABBREVIATION LETTER; AVOCADO.; AXE.; BABY.",
  "ANGEL. BOTTLE. CHICK. SYMBOL.; BACK OF WITH; BACK-TILTED SHADOWED; BACKSLANTED SOUTH;",
  "BACKSPACE.; BACON.; BACTRIAN CAMEL.; BADGER.; BADMINTON RACQUET; BAGEL.; BAGGAGE CLAIM.;",
  "BAGUETTE BREAD.; BALINESE ADEG CARIK DIGIT LETTER MUSICAL PAMADA PAMADA. PAMENENG. PANTI",
  "PANTI. SIGN VOWEL WINDU.; BALL OF; BALLET SHOES.; BALLOON.; BALLOON-SPOKED ASTERISK.; BALLOT",
  "BOLD BOX BOX. SCRIPT X.; BAMUM COLON. COMBINING COMMA. FULL LETTER NJAEMLI. QUESTION",
  "SEMICOLON.; BANANA.; BANJO.; BANK.; BANKNOTE WITH; BAR CHART. OF; BARBER POLE.; BASEBALL.;",
  "BASKET.; BASKETBALL AND; BASSA VAH; BAT.; BATAK CONSONANT LETTER PANGOLAT. PANONGONAN. SIGN",
  "SYMBOL VOWEL; BATH.; BATHTUB.; BATTERY.; BEACH WITH; BEAMED ASCENDING DESCENDING EIGHTH",
  "SIXTEENTH; BEANS.; BEAR FACE.; BEARDED PERSON.; BEATING HEART.; BEAVER.; BECAUSE.; BED.; BEER",
  "MUG.; BEETLE.; BEL.; BELL. PEPPER. SYMBOL. WITH; BELLHOP BELL.; BENGALI ABBREVIATION ANJI. AU",
  "CURRENCY DIGIT GANDA ISSHAR. LETTER RUPEE SANDHI SIGN VOWEL; BENT ARROW; BENTO BOX.; BENZENE",
  "RING RING.; BET SYMBOL.; BETWEEN.; BEVERAGE BOX.; BHAIKSUKI DANDA. DIGIT DOUBLE GAP HUNDREDS",
  "LETTER NUMBER SIGN VOWEL WORD; BICYCLE.; BICYCLIST.; BIG REVERSE SOLIDUS.; BIKINI.; BILLED",
  "CAP.; BILLIARDS.; BIOHAZARD SIGN.; BIRD.; BIRTHDAY CAKE.; BISON.; BITCOIN SIGN.; BITING LIP.;",
  "BLACK BOWTIE. CENTRE CHESS CIRCLE CIRCLE. CLUB CROSS CURVED DIAMOND DIAMOND. DOWN",
  "DOWN-POINTING DOWNWARDS DRAUGHTS DROPLET. FLAG. FLORETTE. FOLDER. FOUR HARD HEART HEART.",
  "HEXAGON. HORIZONTAL HOURGLASS. LARGE LEFT LEFT-POINTING LEFTWARDS LOWER LOZENGE. MEDIUM MOON",
  "NIB. OCTAGON. PARALLELOGRAM. PENNANT. PENTAGON. PUSHPIN. QUESTION RECTANGLE. RIGHT",
  "RIGHT-POINTING RIGHTWARDS ROSETTE. SAFETY SCISSORS. SHOGI SKULL SLIGHTLY SMALL SMILING",
  "SNOWMAN. SPADE SQUARE SQUARE. STAR. SUN TELEPHONE. TINY TOUCHTONE TRUCK. TWO-WAY UNIVERSAL UP",
  "UP-POINTING UPPER UPWARDS VERTICAL VERY; BLACK-FEATHERED NORTH RIGHTWARDS SOUTH; BLACK-LETTER",
  "CAPITAL; BLANK SYMBOL.; BLOCK SEXTANT-.; BLOSSOM.; BLOWFISH.; BLUE BOOK. HEART.;",
  "BLUEBERRIES.; BOAR.; BOLD EIGHT FIVE GREEK SALTIRE. SIX WHITE; BOM.; BOMB.; BONE.; BOOK.;",
  "BOOKMARK. TABS.; BOOKS.; BOOMERANG.; BOPOMOFO FINAL LETTER; BOTTLE WITH; BOTTOM ARC CURLY",
  "HALF LEFT PARENTHESIS. RIGHT SQUARE TORTOISE; BOUQUET. OF; BOW AND; BOWL OF WITH; BOWLING.;",
  "BOWTIE. WITH; BOX DRAWINGS; BOXING GLOVE.; BOY.; BOYS SYMBOL.; BPH.; BRAHMI DANDA. DIGIT",
  "DOUBLE LETTER NUMBER PUNCTUATION SIGN VIRAMA. VOWEL; BRAILLE PATTERN; BRAIN.; BREAD.; BREAK",
  "PERMITTED; BREAST-FEEDING.; BREVE.; BRICK.; BRIDE WITH; BRIDGE AT; BRIEFCASE.; BRIEFS.;",
  "BROCCOLI.; BROKEN BAR. CIRCLE HEART.; BROOM.; BROWN HEART.; BS.; BUBBLE TEA.; BUBBLES.;",
  "BUCKET.; BUG.; BUGINESE END LETTER PALLAWA. VOWEL; BUHID LETTER VOWEL; BUILDING",
  "CONSTRUCTION.; BULLET. OPERATOR.; BULLHORN. WITH; BULLSEYE.; BURRITO.; BUS. STOP.; BUST IN;",
  "BUSTS IN; BUTTER.; BUTTERFLY.; BYTE ORDER; BYZANTINE MUSICAL; CACTUS.; CADA UNA.; CADUCEUS.;",
  "CALENDAR.; CALL ME; CAMERA. WITH; CAMPING.; CAN.; CANADIAN SYLLABICS; CANCEL. CHARACTER.",
  "TAG.; CANCELLATION X.; CANCER.; CANDLE.; CANDY.; CANNED FOOD.; CANOE.; CAPITULUM.;",
  "CAPRICORN.; CAR SLIDING.; CARD FILE INDEX INDEX.; CARE OF.; CARET. INSERTION; CARIAN LETTER;",
  "CARON.; CAROUSEL HORSE.; CARP STREAMER.; CARPENTRY SAW.; CARRIAGE RETURN.; CARROT.; CASTLE.;",
  "CAT. FACE FACE.; CAUCASIAN ALBANIAN; CAUTION SIGN.; CCH.; CEDI SIGN.; CEDILLA.; CELTIC",
  "CROSS.; CENT SIGN.; CENTRE LINE; CENTRELINE LOW OVERLINE.; CERES.; CGJ.; CHAINS.; CHAIR.;",
  "CHAKMA AU DANDA. DIGIT DOUBLE LETTER MAAYYAA. O QUESTION SECTION SIGN VIRAMA. VOWEL; CHAM",
  "CONSONANT DIGIT LETTER PUNCTUATION VOWEL; CHARACTER TABULATION TABULATION. TIE.; CHART WITH;",
  "CHECK MARK.; CHECKER BOARD BOARD.; CHEERING MEGAPHONE.; CHEESE WEDGE.; CHEQUERED FLAG.;",
  "CHEROKEE LETTER SMALL; CHERRIES.; CHERRY BLOSSOM.; CHESTNUT.; CHI RHO.; CHICKEN.; CHILD.;",
  "CHILDREN CROSSING.; CHIPMUNK.; CHIRON.; CHOCOLATE BAR.; CHOPSTICKS.; CHORASMIAN LETTER",
  "NUMBER; CHRISTMAS TREE.; CHURCH.; CINEMA.; CIRCLE DIVIDED WITH; CIRCLED ANTICLOCKWISE",
  "ANTICLOCKWISE-ROTATED ASTERISK BOLD BULLET. C CC. CD. CROSS CROSSING DASH. DIGIT DIVISION",
  "DOLLAR DOT EQUALS. GREATER-THAN. HANGUL HEAVY HORIZONTAL HUMAN IDEOGRAPH INFORMATION ITALIC",
  "KATAKANA KOREAN LATIN LESS-THAN. MINUS. MULTIPLICATION NUMBER OPEN PARALLEL. PERPENDICULAR.",
  "PLUS. POSTAL REVERSE RING SQUARE. TIMES. TRIANGLE TRIANGLE. VERTICAL WHITE WZ. X. ZERO;",
  "CIRCULATION FUNCTION.; CIRCUMFLEX ACCENT.; CIRCUS TENT.; CITYSCAPE. AT; CJK COMPATIBILITY",
  "RADICAL STROKE; CLAMSHELL MOBILE; CLAPPER BOARD.; CLAPPING HANDS; CLASSICAL BUILDING.; CLEAR",
  "SCREEN; CLINKING BEER GLASSES.; CLIPBOARD.; CLOCK FACE; CLOCKWISE CLOSED CONTOUR DOWNWARDS",
  "GAPPED INTEGRAL. OPEN RIGHT RIGHTWARDS TOP TRIANGLE-HEADED; CLOSE UP.; CLOSED BOOK.",
  "INTERSECTION LOCK MAILBOX SUBSET SUBSET. SUPERSET SUPERSET. UMBRELLA. UNION; CLOUD. WITH;",
  "CLOWN FACE.; COAT.; COCKROACH.; COCKTAIL GLASS.; COCONUT.; COFFIN.; COIN.; COLLISION SYMBOL.;",
  "COLON. EQUALS. SIGN.; COMBINING ACUTE ACUTE-GRAVE-ACUTE. ACUTE-MACRON. ALMOST ANNUITY",
  "ANTICLOCKWISE ASTERISK BINDU BREVE BREVE-MACRON. BREVE. BRIDGE CANDRABINDU. CARON CARON.",
  "CEDILLA. CIRCUMFLEX CLOCKWISE COMMA CONJOINING CYRILLIC DELETION DEVANAGARI DIAERESIS",
  "DIAERESIS-RING. DIAERESIS. DOT DOTTED DOUBLE DOUBLED DOWN DOWNWARDS ENCLOSING EQUALS FERMATA.",
  "FOUR GLAGOLITIC GRANTHA GRAPHEME GRAVE GRAVE-ACUTE-GRAVE. GRAVE-MACRON. GREEK HOMOTHETIC HOOK",
  "HORN. INFINITY. INVERTED IS KATAKANA-HIRAGANA KAVYKA LATIN LEFT LEFTWARDS LIGATURE LIGHT LONG",
  "LOW MACRON MACRON-ACUTE. MACRON-BREVE. MACRON-GRAVE. MACRON. MINUS NOT NUMBER OGONEK OGONEK.",
  "OLD OPEN OVERLINE. PALATALIZED PARENTHESES PLUS RETROFLEX REVERSE REVERSED RIGHT RIGHTWARDS",
  "RING SEAGULL SHORT SNAKE SQUARE STRONG SUSPENSION THREE TILDE TILDE. TRIPLE TURNED UP UPWARDS",
  "UR US VERTICAL WIDE WIGGLY X X-X ZIGZAG; COMET.; COMMA.; COMMERCIAL AT. MINUS; COMPASS.;",
  "COMPLEMENT.; COMPOSITION SYMBOL.; COMPRESSION.; CONFETTI BALL.; CONFOUNDED FACE.; CONFUSED",
  "FACE.; CONGRUENT WITH; CONICAL TAPER.; CONJUNCTION.; CONSTRUCTION SIGN. WORKER.; CONTAINS AS",
  "WITH; CONTINUOUS UNDERLINE; CONTOUR INTEGRAL.; CONTROL KNOBS. SEQUENCE; CONVENIENCE STORE.;",
  "COOKED RICE.; COOKIE.; COOKING.; COPTIC CAPITAL COMBINING EPACT FRACTION FULL MORPHOLOGICAL",
  "OLD SMALL SYMBOL; COPYLEFT SYMBOL.; COPYRIGHT SIGN.; CORAL.; CORNISH VERSE; CORRESPONDS TO.;",
  "COUCH AND; COUNTERBORE.; COUNTERSINK.; COUNTING ROD; COUPLE WITH; COW. FACE.; CR.; CRAB.;",
  "CREDIT CARD.; CRESCENT MOON.; CRICKET. BAT; CROCODILE.; CROISSANT.; CROSS MARK. OF PATTY",
  "POMMEE POMMEE.; CROSSED FLAGS. NEGATIVE SWORDS.; CROSSING LANES.; CROWN.; CRUTCH.; CRUZEIRO",
  "SIGN.; CRYING CAT FACE.; CRYSTAL BALL.; CSI.; CUBE ROOT.; CUCUMBER.; CUNEIFORM NUMERIC",
  "PUNCTUATION SIGN; CUP ON WITH; CUPCAKE.; CUPIDO.; CURLING STONE.; CURLY BRACKET LOGICAL",
  "LOOP.; CURRENCY EXCHANGE. SIGN.; CURRY AND; CURVED STEM; CUSTARD.; CUSTOMS.; CUT OF;",
  "CYCLONE.; CYLINDRICITY.; CYPRIOT SYLLABLE; CYPRO-MINOAN SIGN; CYRILLIC CAPITAL KAVYKA. LETTER",
  "PAYEROK. SMALL THOUSANDS; DAGGER. KNIFE. WITH; DALET SYMBOL.; DANCER.; DANGO.; DARK SHADE.",
  "SUNGLASSES.; DASH SYMBOL. WITH; DASHED LOW OVERLINE. TRIANGLE-HEADED; DATA LINK; DC.; DCS.;",
  "DEAF PERSON.; DECIDUOUS TREE.; DECIMAL EXPONENT SEPARATOR; DECREASE FONT; DEER.; DEGREE",
  "CELSIUS. FAHRENHEIT. SIGN.; DEL.; DELETE.; DELIVERY TRUCK.; DELTA EQUAL; DENTISTRY SYMBOL;",
  "DEPARTMENT STORE.; DERELICT HOUSE; DESCENDING NODE.; DESERET CAPITAL SMALL; DESERT. ISLAND.;",
  "DESKTOP COMPUTER. WINDOW.; DEVANAGARI ABBREVIATION ACUTE CARET. DANDA. DIGIT DOUBLE GAP GRAVE",
  "HEADSTROKE. JAIN LETTER OM. SIGN STRESS VOWEL; DEVICE CONTROL; DIAERESIS.; DIAMETER SIGN.;",
  "DIAMOND OPERATOR. SHAPE TARGET. WITH; DIE FACE-.; DIESEL LOCOMOTIVE.; DIFFERENCE BETWEEN.;",
  "DIGIT EIGHT EIGHT. FIVE FIVE. FOUR FOUR. NINE NINE. ONE ONE. SEVEN SEVEN. SIX SIX. THREE",
  "THREE. TWO TWO. ZERO ZERO.; DIGRAM FOR; DIMENSION ORIGIN.; DINGBAT CIRCLED NEGATIVE; DIRECT",
  "CURRENT HIT.; DISABLED CAR.; DISAPPOINTED BUT FACE.; DISCONTINUOUS UNDERLINE; DISGUISED",
  "FACE.; DITTO MARK.; DIVES AKURU; DIVIDES.; DIVING MASK.; DIVISION SIGN. SLASH. TIMES.;",
  "DIVORCE SYMBOL.; DIYA LAMP.; DIZZY FACE. SYMBOL.; DLE.; DNA DOUBLE; DO NOT; DOCUMENT. WITH;",
  "DODO.; DOES NOT; DOG. FACE.; DOGRA ABBREVIATION LETTER SIGN VOWEL; DOLLAR SIGN.; DOLPHIN.;",
  "DOMINO TILE; DONG SIGN.; DOOR.; DOT ABOVE. MINUS. OPERATOR. PLUS.; DOTTED CIRCLE. CROSS.",
  "FENCE. LINE OBELOS. RIGHT-POINTING SOLIDUS. SQUARE. TRANSPOSITION; DOUBLE ACUTE CIRCLED COLON",
  "CURLY DAGGER. DOWN EXCLAMATION HIGH-REVERSED- HYPHEN. INTEGRAL. INTERSECTION. LEFT LOGICAL",
  "LOW LOW- LOW-REVERSED- NESTED OBLIQUE PLUS. PRECEDES. PRIME PRIME. QUESTION RIGHT SOLIDUS",
  "SQUARE STACKED STROKE SUBSET. SUCCEEDS. SUPERSET. SUSPENSION UNION. UP VERTICAL WAVY;",
  "DOUBLE-ENDED MULTIMAP.; DOUBLE-LINE EQUAL SLANTED; DOUBLE-STRUCK CAPITAL ITALIC N-ARY SMALL;",
  "DOUBLED FEMALE MALE SYMBOL.; DOUGHNUT.; DOVE OF; DOWN ARROWHEAD. FISH RIGHT TACK TACK.;",
  "DOWN-POINTING RED SMALL TRIANGLE; DOWNWARD FACING; DOWNWARDS ANCORA. ARROW ARROW. BLACK",
  "COMPRESSED DASHED DOUBLE FINGER-POST HARPOON HEAVY PAIRED QUADRUPLE ROCKET. SANS-SERIF",
  "SQUARED TRIANGLE TRIANGLE-HEADED TRIPLE TWO TWO-HEADED WHITE ZIGZAG; DRACHMA SIGN.; DRAFTING",
  "POINT; DRAGON. FACE.; DRESS.; DRIVE SLOW; DROMEDARY CAMEL.; DROOLING FACE.; DROP OF;",
  "DROPLET.; DRUM WITH; DUCK.; DUMPLING.; DUPLOYAN AFFIX DOUBLE LETTER PUNCTUATION SIGN THICK;",
  "DVD.; E-MAIL SYMBOL.; EAGLE.; EAR. OF WITH; EARTH. GLOBE GROUND.; EAST SYRIAC; EDITORIAL",
  "CORONIS.; EGG.; EGYPTIAN HIEROGLYPH; EIGHT PETALLED POINTED SPOKED TEARDROP-SPOKED; EIGHTH",
  "NOTE.; EJECT SYMBOL.; ELBASAN LETTER; ELECTRIC ARROW. LIGHT PLUG. TORCH.; ELECTRICAL",
  "INTERSECTION.; ELEMENT OF OF.; ELEPHANT.; ELEVATOR.; ELF.; ELYMAIC LETTER LIGATURE; EM DASH.",
  "QUAD. SPACE.; EMOJI COMPONENT MODIFIER; EMPHASIS SYMBOL.; EMPTY DOCUMENT. NEST. NOTE NOTE.",
  "PAGE. PAGES. SET SET.; EN DASH. QUAD. SPACE.; END OF WITH; ENQ.; ENQUIRY.; ENTER SYMBOL.;",
  "ENVELOPE. WITH; EOL.; EOM.; EOT.; EPA.; EQUAL AND TO; EQUALS COLON. SIGN SIGN. WITH;",
  "EQUIANGULAR TO.; EQUIVALENT TO. WITH; ERASE TO; ERIS FORM; ERROR-BARRED BLACK WHITE; ESA.;",
  "ESC.; ESCAPE.; ESTIMATED SYMBOL.; ESTIMATES.; ETB.; ETHIOPIC COLON. COMBINING COMMA. DIGIT",
  "FULL NUMBER PARAGRAPH PREFACE QUESTION SECTION SEMICOLON. SYLLABLE TONAL WORDSPACE.; ETX.;",
  "EULER CONSTANT.; EURO SIGN.; EURO-CURRENCY SIGN.; EUROPEAN CASTLE. POST; EVERGREEN TREE.;",
  "EXCESS.; EXCLAMATION MARK. QUESTION; EXPRESSIONLESS FACE.; EXTENDED ARABIC-INDIC;",
  "EXTRATERRESTRIAL ALIEN.; EXTREMELY HEAVY; EYE.; EYEGLASSES.; EYES.; FACE HOLDING MASSAGE.",
  "PALM. SAVOURING SCREAMING THROWING WITH WITHOUT; FACSIMILE SIGN.; FACTORY.; FAIRY.; FALAFEL.;",
  "FALLEN LEAF.; FALLING DIAGONAL; FAMILY.; FARSI SYMBOL.; FATHER CHRISTMAS.; FAX ICON.",
  "MACHINE.; FEARFUL FACE.; FEATHER.; FEMALE SIGN.; FEMININE ORDINAL; FENCER.; FERRIS WHEEL.;",
  "FERRY.; FF.; FIELD HOCKEY; FIGURE DASH. SPACE.; FILE CABINET. FOLDER. SEPARATOR.; FILM",
  "FRAMES. PROJECTOR.; FINITE PART; FIRE. ENGINE. EXTINGUISHER.; FIRECRACKER.; FIREWORK",
  "SPARKLER.; FIREWORKS.; FIRST PLACE QUARTER STRONG; FISH. CAKE; FISHEYE.; FISHING POLE; FISTED",
  "HAND; FIVE DOT; FLAG IN; FLAMINGO.; FLAT SHOE.; FLATBREAD.; FLATNESS.; FLEUR-DE-LIS.; FLEXED",
  "BICEPS.; FLOPPY DISK.; FLORAL HEART.; FLOWER. PLAYING PUNCTUATION; FLUSHED FACE.; FLY.;",
  "FLYING DISC. ENVELOPE. SAUCER.; FOG.; FOGGY.; FOLDER.; FONDUE.; FOOT.; FOOTPRINTS.; FOR ALL.;",
  "FORCES.; FORK AND; FORKED PARAGRAPHOS.; FORKING.; FORM FEED.; FORTUNE COOKIE.; FOUNTAIN.;",
  "FOUR BALLOON-SPOKED CLUB-SPOKED CORNER DOT LEAF POINTED TEARDROP-SPOKED; FOUR-PER-EM SPACE.;",
  "FOURTH ROOT.; FOX FACE.; FRACTION NUMERATOR SLASH.; FRAME WITH; FREEZING FACE.; FRENCH FRANC",
  "FRIES.; FRIED SHRIMP.; FROG FACE.; FRONT-FACING BABY; FRONT-TILTED SHADOWED; FROWN.; FROWNING",
  "FACE; FS.; FSI.; FUEL PUMP.; FULL BLOCK. MOON OUTER STOP.; FULLWIDTH AMPERSAND. APOSTROPHE.",
  "ASTERISK. BROKEN CENT CIRCUMFLEX COLON. COMMA. COMMERCIAL DIGIT DOLLAR EQUALS EXCLAMATION",
  "FULL GRAVE GREATER-THAN HYPHEN-MINUS. LATIN LEFT LESS-THAN LOW MACRON. NOT NUMBER PERCENT",
  "PLUS POUND QUESTION QUOTATION REVERSE RIGHT SEMICOLON. SOLIDUS. TILDE. VERTICAL WON YEN;",
  "FUNCTION APPLICATION.; FUNERAL URN.; FUSE.; FVS.; GAME DIE.; GARLIC.; GEAR. WITH WITHOUT; GEM",
  "STONE.; GEMINI.; GENIE.; GEOMETRIC PROPORTION.; GEOMETRICALLY EQUAL EQUIVALENT; GEORGIAN",
  "CAPITAL LETTER MTAVRULI PARAGRAPH SMALL; GERMAN PENNY; GETA MARK.; GHOST.; GIMEL SYMBOL.;",
  "GIRAFFE FACE.; GIRL.; GIRLS SYMBOL.; GLAGOLITIC CAPITAL SMALL; GLASS OF; GLEICH STARK.; GLOBE",
  "WITH; GLOVES.; GLOWING STAR.; GOAL NET.; GOAT.; GOGGLES.; GOLFER.; GORILLA.; GOTHIC LETTER;",
  "GRADUATION CAP.; GRANTHA AU LETTER OM. SIGN VOWEL; GRAPES.; GRAVE ACCENT.; GREATER-THAN ABOVE",
  "AND BESIDE BUT CLOSED EQUAL OR OVER OVERLAPPING SIGN. WITH; GREEK ACROPHONIC ANO AROURA",
  "ARTABE BETA CAPITAL DASIA DASIA. DIALYTIKA DRACHMA FIVE FOUR GRAMMA INDICTION INSTRUMENTAL",
  "KAI KAPPA KORONIS. KYATHOS LETTER LITRA LOWER LUNATE METRETES MUSICAL NUMERAL OBOL ONE OUNKIA",
  "OXIA. PERISPOMENI. PHI PI PROSGEGRAMMENI. PSILI PSILI. QUESTION REVERSED RHO SINUSOID SMALL",
  "SUBSCRIPT SYMBOL TALENT THETA THREE TONOS. TRYBLION TWO UPSILON VARIA. VOCAL XESTES YEAR",
  "YPOGEGRAMMENI. ZERO; GREEN APPLE. BOOK. HEART. SALAD.; GRIMACING FACE.; GRINNING CAT FACE",
  "FACE.; GROUP MARK. SEPARATOR.; GROWING HEART.; GS.; GUARANI SIGN.; GUARDSMAN.; GUIDE DOG.;",
  "GUITAR.; GUJARATI ABBREVIATION DIGIT LETTER OM. RUPEE SIGN VOWEL; GUNJALA GONDI; GURMUKHI",
  "ABBREVIATION ADDAK. DIGIT EK IRI. LETTER SIGN TIPPI. URA. VOWEL; HADES.; HAIR SPACE.;",
  "HAIRCUT.; HALFWIDTH BLACK DOWNWARDS FORMS HANGUL IDEOGRAPHIC KATAKANA KATAKANA-HIRAGANA LEFT",
  "LEFTWARDS RIGHT RIGHTWARDS UPWARDS WHITE; HAMBURGER.; HAMMER. AND; HAMSA.; HAMSTER FACE.;",
  "HAND WITH; HANDBAG.; HANDBALL.; HANDSHAKE.; HANGUL CHOSEONG DOUBLE FILLER. JONGSEONG",
  "JUNGSEONG LETTER SINGLE; HANGZHOU NUMERAL; HANIFI ROHINGYA; HANUNOO LETTER SIGN VOWEL; HAPPY",
  "PERSON; HARD DISK.; HATCHING CHICK.; HATRAN LETTER NUMBER; HEADPHONE.; HEADSTONE. GRAVEYARD;",
  "HEAR-NO-EVIL MONKEY.; HEART DECORATION. HANDS. WITH; HEAVY AMPERSAND ARROW ASTERISK. BALLOT",
  "BLACK BLACK-FEATHERED CHECK CHEVRON CIRCLE CIRCLE. CIRCLED CONCAVE-POINTED DASHED DIVISION",
  "DOLLAR DOUBLE DOWNWARDS EIGHT EQUALS EXCLAMATION FIVE FOUR GREEK HEART HORIZONTAL INTERROBANG",
  "LARGE LATIN LEFT-POINTING LEFTWARDS LIGATURE LOW LOWER MINUS MULTIPLICATION NORTH OPEN",
  "OUTLINED OVAL PLUS RIGHT-POINTING RIGHTWARDS ROUND-TIPPED SALTIRE. SANS-SERIF SCRIPT SINGLE",
  "SIX SOUTH SPARKLE. TEARDROP-SHANKED TEARDROP-SPOKED TRIANGLE-HEADED TWELVE UPPER UPWARDS",
  "VERTICAL WEDGE-TAILED WHITE WIDE-HEADED; HEBREW ACCENT LETTER LIGATURE MARK POINT PUNCTUATION",
  "YOD; HEDGEHOG.; HELICOPTER.; HELLSCHREIBER PAUSE; HELM SYMBOL.; HELMET WITH; HENTAIGANA",
  "LETTER; HERB.; HERMITIAN CONJUGATE; HEXAGRAM FOR; HIBISCUS.; HIGH BRIGHTNESS OCTET VOLTAGE;",
  "HIGH-HEELED SHOE.; HIGH-SPEED TRAIN TRAIN.; HIKING BOOT.; HINDU TEMPLE.; HIPPOPOTAMUS.;",
  "HIRAGANA DIGRAPH ITERATION LETTER VOICED; HISTORIC SITE.; HOCHO.; HOLE.; HOLLOW QUILT;",
  "HOMOTHETIC.; HONEY POT.; HONEYBEE.; HOOK.; HOP.; HORIZONTAL BAR. BLACK ELLIPSIS. LINE MALE",
  "ONE SCAN TAB TABULATION TABULATION. TRAFFIC; HORSE. FACE. RACING.; HOSPITAL.; HOT BEVERAGE.",
  "DOG. PEPPER. SPRINGS.; HOTEL.; HOURGLASS. WITH; HOUSE. BUILDING. BUILDINGS. WITH; HRYVNIA",
  "SIGN.; HT.; HTJ.; HTS.; HUGGING FACE.; HUNDRED POINTS; HUSHED FACE.; HUT.; HYGIEA.; HYPHEN.",
  "BULLET. WITH; HYPHEN-MINUS.; HYPHENATION POINT.; HYPODIASTOLE.; HYSTERESIS SYMBOL.; I LOVE;",
  "ICE CREAM. CUBE. HOCKEY SKATE.; IDENTICAL TO TO. WITH; IDENTIFICATION CARD.; IDEOGRAPHIC",
  "ANNOTATION CLOSING COMMA. DEPARTING DESCRIPTION ENTERING FULL HALF ITERATION LEVEL NUMBER",
  "RISING SPACE. TALLY TELEGRAPH VARIATION; IMAGE OF OF.; IMP.; IMPERIAL ARAMAIC; INBOX TRAY.;",
  "INCOMING ENVELOPE.; INCOMPLETE INFINITY.; INCREASE FONT; INCREASES AS.; INCREMENT.; IND.;",
  "INDEX. POINTING; INDIAN RUPEE; INDIC SIYAQ; INFINITY. NEGATED; INFORMATION DESK SEPARATOR",
  "SOURCE.; INHIBIT ARABIC SYMMETRIC; INPUT SYMBOL; INSCRIPTIONAL PAHLAVI PARTHIAN; INSERTION",
  "SYMBOL.; INTEGRAL. AROUND AVERAGE EXTENSION. WITH; INTERCALATE.; INTERIOR PRODUCT.;",
  "INTERLINEAR ANNOTATION; INTERLOCKED FEMALE; INTERROBANG.; INTERSECTION. ABOVE BESIDE WITH;",
  "INVERSE BULLET. CHECK CHECKER DOWNWARDS MEDIUM WHITE; INVERTED EXCLAMATION INTERROBANG. LAZY",
  "LOW OHM PENTAGRAM. QUESTION UNDERTIE.; INVISIBLE PLUS. SEPARATOR. TIMES.; IZAKAYA LANTERN.;",
  "JACK-O-LANTERN.; JAPANESE BANK CASTLE. DOLLS. GOBLIN. INDUSTRIAL OGRE. POST SYMBOL; JAR.;",
  "JAVANESE CONSONANT DIGIT LEFT LETTER PADA PANGKON. PANGRANGKEP. RIGHT SIGN TURNED VOWEL;",
  "JEANS.; JIGSAW PUZZLE; JOIN.; JOYSTICK.; JUGGLING.; JUNO.; JUPITER.; KAABA.; KAITHI",
  "ABBREVIATION DANDA. DOUBLE ENUMERATION LETTER NUMBER SECTION SIGN VOWEL; KANGAROO.; KANGXI",
  "RADICAL; KANNADA AI DIGIT LENGTH LETTER SIGN VOWEL; KATAKANA DIGRAPH ITERATION LETTER MIDDLE",
  "VOICED; KATAKANA-HIRAGANA DOUBLE PROLONGED SEMI-VOICED VOICED; KAYAH LI; KELVIN SIGN.; KEY.;",
  "KEYBOARD. AND; KEYCAP TEN.; KHAROSHTHI DIGIT FRACTION LETTER NUMBER PUNCTUATION SIGN VIRAMA.",
  "VOWEL; KHITAN SMALL; KHMER CURRENCY DIGIT INDEPENDENT LETTER SIGN SYMBOL VOWEL; KHOJKI",
  "ABBREVIATION DANDA. DOUBLE LETTER SECTION SIGN VOWEL WORD; KHUDAWADI DIGIT LETTER SIGN VOWEL;",
  "KIMONO.; KIP SIGN.; KISS. MARK.; KISSING CAT FACE FACE.; KITE.; KIWIFRUIT.; KNEELING PERSON.;",
  "KNOT.; KOALA.; KOREAN STANDARD; KRONOS.; L B; LAB COAT.; LABEL.; LACROSSE STICK; LADDER.;",
  "LADY BEETLE.; LANGUAGE TAG.; LAO CANCELLATION DIGIT ELLIPSIS. HO KO LETTER NIGGAHITA.",
  "SEMIVOWEL SIGN TONE VOWEL; LARGE BLUE BROWN CIRCLE. DOWN GREEN LEFT ONE ORANGE PURPLE RED",
  "TRIPLE TWO UP YELLOW; LARGER THAN THAN.; LARI SIGN.; LAST QUARTER; LATIN CAPITAL CROSS.",
  "EPIGRAPHIC LETTER SMALL SUBSCRIPT; LEAF FLUTTERING; LEAFY GREEN.; LEDGER.; LEFT AND ANGER",
  "ANGLE ARC ARROW BARB BLACK CEILING. CLOSED CORNER CURLY DOTTED DOUBLE FISH FIVE FLOOR. HALF",
  "HAND LOW LUGGAGE. MULTIMAP. NORMAL ONE OUTER PARENTHESIS PARENTHESIS. RAISED RIGHT S-SHAPED",
  "SEMIDIRECT SEVEN SIDEWAYS SINGLE SPEECH SQUARE SUBSTITUTION TACK. THIRD THOUGHT THREE",
  "TORTOISE TRANSPOSITION TRIANGLE TRIANGULAR VERTICAL WHITE WIGGLY WRITING; LEFT-FACING",
  "ARMENIAN FIST. SVASTI; LEFT-HANDED INTERLACED; LEFT-POINTING ANGLE CURVED DOUBLE MAGNIFYING;",
  "LEFT-SHADED WHITE; LEFT-SIDE ARC; LEFT-TO-RIGHT EMBEDDING. ISOLATE. MARK. OVERRIDE.;",
  "LEFTWARDS ARROW ARROW-TAIL. ARROW. BACK-TILTED BLACK BOTTOM-SHADED COMPRESSED DASHED DOUBLE",
  "FINGER-POST FRONT-TILTED HAND. HARPOON HEAVY LEFT-SHADED OPEN-HEADED PAIRED QUADRUPLE",
  "RIGHT-SHADED ROCKET. SANS-SERIF SQUARED SQUIGGLE TOP TRIANGLE TRIANGLE-HEADED TRIPLE TWO",
  "TWO-HEADED WAVE WHITE; LEG.; LEMON.; LEO.; LEOPARD.; LEPCHA CONSONANT DIGIT LETTER",
  "PUNCTUATION SIGN SUBJOINED VOWEL; LESS-THAN ABOVE AND BUT CLOSED EQUAL OR OVER SIGN. WITH;",
  "LEVEL SLIDER.; LF.; LIBRA.; LIGATURE OPEN; LIGHT CHECK EIGHT FIVE FOUR GREEK LEFT RAIL. RIGHT",
  "SALTIRE. SHADE. SIX THREE TWELVE VERTICAL WHITE; LIGHTNING. MOOD MOOD.; LIMBU DIGIT",
  "EXCLAMATION LETTER QUESTION SIGN SMALL SUBJOINED VOWEL VOWEL-CARRIER; LIMITED LIABILITY; LINE",
  "FEED. INTEGRATION SEPARATOR. TABULATION TABULATION.; LINEAR A B; LINK SYMBOL.; LINKED",
  "PAPERCLIPS.; LION FACE.; LIPS.; LIPSTICK.; LIRA SIGN.; LISU LETTER PUNCTUATION; LIVRE",
  "TOURNOIS; LIZARD.; LLAMA.; LOBSTER.; LOCK. WITH; LOCKING-SHIFT ONE. ZERO.; LOGICAL AND AND.",
  "OR OR.; LOLLIPOP.; LONG DASH DIVISION. DRUM. LEFT LEFTWARDS RIGHT RIGHTWARDS; LOTION BOTTLE.;",
  "LOTUS.; LOUDLY CRYING; LOVE HOTEL. LETTER.; LOW ASTERISK. BATTERY. BRIGHTNESS DOUBLE KAVYKA",
  "KAVYKA. LINE.; LOWER BLADE FIVE HALF LEFT ONE RIGHT SEVEN THREE TRIANGULAR; LOZENGE. DIVIDED;",
  "LRE.; LRI.; LRM.; LRO.; LUGGAGE.; LUNGS.; LYCIAN LETTER; LYDIAN LETTER TRIANGULAR; LYING",
  "FACE.; MACRON.; MAGE.; MAGIC WAND.; MAGNET.; MAHAJANI ABBREVIATION LETTER LIGATURE SECTION",
  "SIGN; MAHJONG TILE; MAKASAR ANGKA. END LETTER PASSIMBANG. VOWEL; MALAYALAM AU DATE DIGIT",
  "FRACTION LETTER NUMBER SIGN VOWEL; MALE AND SIGN. WITH; MALTESE CROSS.; MAMMOTH.; MAN. AND",
  "DANCING. IN WITH; MANAT SIGN.; MANDAIC AFFRICATION GEMINATION LETTER PUNCTUATION.",
  "VOCALIZATION; MANGO.; MANICHAEAN ABBREVIATION LETTER NUMBER PUNCTUATION SIGN; MANS SHOE.;",
  "MANTELPIECE CLOCK.; MANUAL WHEELCHAIR.; MAP SYMBOL; MAPLE LEAF.; MARCHEN HEAD LETTER MARK",
  "SIGN SUBJOINED VOWEL; MARRIAGE SYMBOL.; MARTIAL ARTS; MASARAM GONDI; MASCULINE ORDINAL; MASK",
  "WORK; MASU MARK.; MATE DRINK.; MATHEMATICAL BOLD DOUBLE-STRUCK FALLING FRAKTUR ITALIC LEFT",
  "MONOSPACE RIGHT RISING SANS-SERIF SCRIPT; MAXIMIZE.; MAYAN NUMERAL; MEASURED ANGLE ANGLE. BY.",
  "RIGHT; MEAT ON; MECHANICAL ARM. LEG.; MEDEFAIDRIN CAPITAL COMMA. DIGIT EXCLAMATION FULL",
  "NUMBER SMALL SYMBOL; MEDIEVAL COMMA. EXCLAMATION QUESTION; MEDIUM BLACK BOLD EIGHT FIVE",
  "FLATTENED FOUR GREEK LEFT LEFT-POINTING MATHEMATICAL RIGHT RIGHT-POINTING SALTIRE. SHADE. SIX",
  "SMALL THREE VERTICAL WHITE; MEETEI MAYEK; MELON.; MELTING FACE.; MEMO.; MENDE KIKAKUI;",
  "MENORAH WITH; MENS SYMBOL.; MERCURY.; MEROITIC CURSIVE HIEROGLYPHIC; MERPERSON.; MESSAGE",
  "WAITING.; METRICAL BREVE. LONG PENTASEME. SHORT TETRASEME. TRISEME. TWO; METRO.; MIAO LETTER",
  "SIGN TONE VOWEL; MICR DASH ON; MICRO SIGN.; MICROBE.; MICROPHONE.; MICROSCOPE.; MIDDLE DOT.",
  "THIRD; MIDLINE HORIZONTAL; MILITARY HELMET. MEDAL.; MILKY WAY.; MILL SIGN.; MINIBUS.;",
  "MINIDISC.; MINIMIZE.; MINUS SIGN SIGN. TILDE.; MINUS-OR-PLUS SIGN.; MINY.;",
  "MMSP.; MOBILE PHONE PHONE.; MODELS.; MODERN PENTATHLON.; MODI ABBREVIATION DANDA. DIGIT",
  "DOUBLE LETTER SIGN VOWEL; MODIFIER BREVE LETTER; MODULO TWO; MONEY BAG. WITH; MONEY-MOUTH",
  "FACE.; MONGOLIAN BIRGA BIRGA. COLON. COMMA. DIGIT DOUBLE ELLIPSIS. FOUR FREE FULL INVERTED",
  "LETTER MANCHU NIRUGU. ROTATED SIBE SWIRL TODO TRIPLE TURNED VOWEL; MONKEY. FACE.; MONOGRAM",
  "FOR; MONORAIL.; MONOSTABLE SYMBOL.; MOOD BUBBLE.; MOON CAKE. VIEWING; MOSQUE.; MOSQUITO.;",
  "MOTHER CHRISTMAS.; MOTOR BOAT. SCOOTER.; MOTORIZED WHEELCHAIR.; MOTORWAY.; MOUNT FUJI.;",
  "MOUNTAIN. BICYCLIST. CABLEWAY. RAILWAY.; MOUSE. FACE. TRAP.; MOUTH.; MOVIE CAMERA.; MOYAI.;",
  "MRO DANDA. DIGIT DOUBLE LETTER; MUCH GREATER-THAN. LESS-THAN.; MULTANI LETTER SECTION;",
  "MULTIMAP.; MULTIPLE MUSICAL; MULTIPLICATION SIGN SIGN. X.; MULTISET. MULTIPLICATION. UNION.;",
  "MUSHROOM.; MUSIC FLAT NATURAL SHARP; MUSICAL KEYBOARD KEYBOARD. NOTE. SCORE. SYMBOL; MVS.;",
  "MW.; MYANMAR CONSONANT DIGIT LETTER LOGOGRAM MODIFIER SHAN SIGN SYMBOL TAI TONE VOWEL; N-ARY",
  "CIRCLED COPRODUCT. INTERSECTION. LOGICAL PRODUCT. SQUARE SUMMATION. TIMES UNION UNION. WHITE;",
  "NABATAEAN CRUCIFORM LETTER NUMBER; NABLA.; NAIL POLISH.; NAIRA SIGN.; NAK.; NAME BADGE.;",
  "NAND.; NANDINAGARI HEADSTROKE. LETTER SIGN VOWEL; NARROW NO-BREAK; NATIONAL DIGIT PARK.;",
  "NAUSEATED FACE.; NAZAR AMULET.; NBH.; NBSP.; NECKTIE.; NEGATED DOUBLE; NEGATIVE ACKNOWLEDGE.",
  "CIRCLED DIAGONAL SQUARED; NEITHER A APPROXIMATELY GREATER-THAN LESS-THAN; NEL.; NEPTUNE.",
  "FORM; NERD FACE.; NESSUS.; NEST WITH; NESTING DOLLS.; NEUTER.; NEUTRAL CHESS FACE.; NEW LINE.",
  "MOON SHEQEL TAI; NEWA ABBREVIATION COMMA. DANDA. DIGIT DOUBLE GAP INSERTION LETTER OM.",
  "PLACEHOLDER SANDHI SIDDHI. SIGN VOWEL; NEWLINE LEFT. RIGHT.; NEWSPAPER.; NEXT LINE. PAGE.;",
  "NIGHT WITH; NINJA.; NKO COMBINING COMMA. DANTAYALAN. DIGIT DOROME EXCLAMATION HIGH",
  "LAJANYALAN. LETTER LOW SYMBOL TAMAN; NL.; NNBSP.; NO BICYCLES. BREAK ENTRY ENTRY. MOBILE ONE",
  "PEDESTRIANS. PIRACY. SMOKING; NO-BREAK SPACE.; NOMINAL DIGIT; NOMISMA SIGN.; NON-BREAKING",
  "HYPHEN.; NON-POTABLE WATER; NONFORKING.; NOR.; NORDIC MARK; NORMAL SUBGROUP; NORTH EAST INDIC",
  "WEST; NORTHEAST-POINTING AIRPLANE.; NOSE.; NOT A ALMOST AN ASYMPTOTICALLY CHECK EQUAL",
  "EQUIVALENT GREATER-THAN. IDENTICAL LESS-THAN. NORMAL PARALLEL SIGN. SQUARE TILDE. TRUE.;",
  "NOTCHED LEFT LOWER RIGHT UPPER; NOTE. PAD. PAGE.; NOTEBOOK. WITH; NUL.; NULL.; NUMBER",
  "EIGHTEEN ELEVEN FIFTEEN FOURTEEN NINETEEN SEVENTEEN SIGN. SIXTEEN TEN THIRTEEN TWELVE TWENTY;",
  "NUMERO SIGN.; NUSHU CHARACTER-. ITERATION; NUT AND; NYIAKENG PUACHUE; OBJECT REPLACEMENT;",
  "OBLIQUE ANGLE HYPHEN.; OBSERVER EYE; OCR AMOUNT BELT BOW BRANCH CHAIR. CUSTOMER DASH. DOUBLE",
  "FORK. HOOK. INVERTED; OCTAGONAL SIGN.; OCTOPUS.; ODEN.; OFFICE BUILDING.; OGHAM FEATHER",
  "LETTER REVERSED SPACE; OGONEK.; OHM SIGN.; OIL DRUM.; OK HAND; OL CHIKI; OLD CHINESE",
  "HUNGARIAN ITALIC KEY. NORTH PERMIC PERSIAN PERSONAL SOGDIAN SOUTH TURKIC UYGHUR; OLDER ADULT.",
  "MAN. WOMAN.; OLIVE.; OM SYMBOL.; ON WITH; ONCOMING AUTOMOBILE. BUS. FIRE POLICE TAXI.; ONE",
  "BUTTON DOT; ONE-PIECE SWIMSUIT.; ONION.; OPEN BOOK. BOX. CENTRE FILE FOLDER. HANDS LOCK.",
  "MAILBOX SUBSET. SUPERSET.; OPEN-CIRCUIT-OUTPUT H-TYPE L-TYPE; OPEN-OUTLINED RIGHTWARDS;",
  "OPERATING SYSTEM; OPHIUCHUS.; OPPOSITION.; OPTICAL DISC DISC.; OPTION KEY.; OR WITH; ORANGE",
  "BOOK. HEART.; ORANGUTAN.; ORIYA AI AU DIGIT FRACTION ISSHAR. LETTER SIGN VOWEL;",
  "ORNATE LEFT RIGHT; ORTHODOX CROSS.; OSAGE CAPITAL SMALL; OSC.; OSMANYA DIGIT LETTER; OTTER.;",
  "OTTOMAN SIYAQ; OUNCE SIGN.; OUTBOX TRAY.; OUTLINED BLACK GREEK LATIN WHITE; OVERHEATED FACE.;",
  "OVERLAP.; OVERLAPPING BLACK WHITE; OVERLINE.; OWL.; OX.; OYSTER.; PACKAGE.; PAD.; PADDING",
  "CHARACTER.; PAGE. FACING WITH; PAGER.; PAGES.; PAGODA.; PAHAWH HMONG; PALLAS.; PALM BRANCH.",
  "DOWN TREE. UP; PALMS UP; PALMYRENE LEFT-POINTING LETTER NUMBER RIGHT-POINTING; PANCAKES.;",
  "PANDA FACE.; PAPERCLIP.; PARACHUTE.; PARAGRAPH SEPARATOR.; PARAGRAPHOS.; PARAGRAPHUS MARK.;",
  "PARALLEL TO. WITH; PARENTHESIZED DIGIT HANGUL IDEOGRAPH KOREAN LATIN NUMBER; PARROT.; PART",
  "ALTERNATION; PARTIAL DIFFERENTIAL. LINE; PARTIALLY-RECYCLED PAPER; PARTNERSHIP SIGN.; PARTY",
  "POPPER.; PASSED SYMBOL.; PASSENGER SHIP.; PASSIVE-PULL-DOWN-OUTPUT SYMBOL.;",
  "PASSIVE-PULL-UP-OUTPUT SYMBOL.; PASSPORT CONTROL.; PAU CIN; PAW PRINTS.; PDF.; PDI.; PEACE",
  "SYMBOL.; PEACH.; PEACOCK.; PEANUTS.; PEAR.; PEDESTRIAN.; PEN OVER; PENCIL.; PENGUIN.; PENSIVE",
  "FACE.; PENTAGRAM.; PEOPLE HUGGING.; PER MILLE SIGN. TEN; PERCENT SIGN.; PERFORMING ARTS.;",
  "PERMANENT PAPER; PERPENDICULAR. WITH; PERSEVERING FACE.; PERSON BOWING CLIMBING. DOING",
  "FROWNING. IN RAISING WITH; PERSONAL COMPUTER.; PERSPECTIVE.; PESETA SIGN.; PESO SIGN.; PETRI",
  "DISH.; PHAGS-PA DOUBLE LETTER MARK SINGLE SUBJOINED SUPERFIXED; PHAISTOS DISC; PHILIPPINE",
  "DOUBLE SINGLE; PHOENICIAN LETTER NUMBER WORD; PHOLUS.; PICK.; PICKUP TRUCK.; PIE.; PIG. FACE.",
  "NOSE.; PILCROW SIGN.; PILE OF; PILL.; PINATA.; PINCHED FINGERS.; PINCHING HAND.; PINE",
  "DECORATION.; PINEAPPLE.; PINWHEEL STAR.; PISCES.; PISTOL.; PITCHFORK. WITH; PLACARD.; PLACE",
  "OF; PLANCK CONSTANT CONSTANT.; PLAYGROUND SLIDE.; PLAYING CARD; PLD.; PLU.; PLUNGER.; PLUS",
  "SIGN SIGN.; PLUS-MINUS SIGN.; PLUTO. FORM; PM.; POCKET CALCULATOR.; POLICE CAR. CARS",
  "OFFICER.; POODLE.; POP DIRECTIONAL; POPCORN.; PORTABLE STEREO.; POSEIDON.; POSITION",
  "INDICATOR.; POSTAL HORN. MARK MARK.; POSTBOX.; POT OF; POTABLE WATER; POTATO.; POTTED PLANT.;",
  "POUCH.; POULTRY LEG.; POUND SIGN.; POURING LIQUID.; POUTING CAT FACE.; POWER ON ON-OFF SLEEP",
  "SYMBOL.; PRAYER BEADS.; PRECEDES. ABOVE BUT OR UNDER; PREGNANT MAN. PERSON. WOMAN.;",
  "PRESCRIPTION TAKE.; PRESENTATION FORM; PRETZEL.; PREVIOUS PAGE.; PRIME.; PRINCE.; PRINCESS.;",
  "PRINT SCREEN; PRINTER. ICON.; PRIVACY MESSAGE.; PRIVATE USE USE-.; PROBING CANE.; PROHIBITED",
  "SIGN.; PROJECTIVE.; PROPERTY LINE.; PROPORTION.; PROPORTIONAL TO.; PROSERPINA.; PSALTER",
  "PAHLAVI; PU.; PUBLIC ADDRESS; PUNCTUATION SPACE.; PUNCTUS ELEVATUS; PURPLE HEART.; PURSE.;",
  "PUSHPIN.; PUT LITTER; QUADRANT LOWER UPPER; QUADRUPLE INTEGRAL PRIME.; QUARTER NOTE.;",
  "QUATERNION INTEGRAL; QUESTION EXCLAMATION MARK.; QUESTIONED EQUAL; QUINCUNX.; QUOTATION",
  "MARK.; RABBIT. FACE.; RACCOON.; RACING CAR. MOTORCYCLE.; RADICAL SYMBOL; RADIO. BUTTON.;",
  "RADIOACTIVE SIGN.; RAILWAY CAR. TRACK.; RAIN.; RAINBOW.; RAISED BACK COMMA. DOT. DOTTED FIST.",
  "HAND HAND. INTERPOLATION MC MD MR SQUARE.; RAM.; RAT.; RATIO.; RAZOR.; RECEIPT.; RECORD",
  "SEPARATOR.; RECREATIONAL VEHICLE.; RECYCLED PAPER; RECYCLING SYMBOL; RED APPLE. GIFT;",
  "REFERENCE MARK.; REGIONAL INDICATOR; REGISTERED SIGN.; REJANG CONSONANT LETTER SECTION",
  "VIRAMA. VOWEL; RELIEVED FACE.; REMINDER RIBBON.; REPLACEMENT CHARACTER.; RESPONSE.;",
  "RESTRICTED LEFT; RESTROOM.; RETURN LEFT. RIGHT. SYMBOL.; REVERSE CHECKER INDEX. LIGHT LINE",
  "SOLIDUS SOLIDUS. TILDE; REVERSED ANGLE ANGLE. COMMA. DOUBLE EMPTY FORKED HAND NOT PILCROW",
  "PRIME. QUESTION RAISED RIGHT ROTATED SANS-SERIF SEMICOLON. THUMBS TILDE TILDE. TRIPLE",
  "VICTORY; REVOLVING HEARTS.; RHINOCEROS.; RI.; RIAL SIGN.; RIBBON. ARROW; RICE BALL. CRACKER.;",
  "RIFLE.; RIGHT AND ANGER ANGLE ANGLE. ARC ARROW BLACK CEILING. CORNER CURLY DOTTED DOUBLE FISH",
  "FIVE FLOOR. HALF HAND LOW NORMAL ONE OPEN OUTER PARENTHESIS PARENTHESIS. RAISED S-SHAPED",
  "SEMIDIRECT SEVEN SIDEWAYS SINGLE SPEAKER SPEAKER. SPEECH SQUARE SUBSTITUTION TACK. THIRD",
  "THOUGHT THREE TORTOISE TRANSPOSITION TRIANGLE TRIANGLE. TRIANGULAR VERTICAL WHITE WIGGLY;",
  "RIGHT-FACING ARMENIAN FIST. SVASTI; RIGHT-HANDED INTERLACED; RIGHT-POINTING ANGLE CURVED",
  "DOUBLE MAGNIFYING; RIGHT-SHADED WHITE; RIGHT-SIDE ARC; RIGHT-TO-LEFT EMBEDDING. ISOLATE.",
  "MARK. OVERRIDE.; RIGHTHAND INTERIOR; RIGHTWARDS ARROW ARROW-TAIL. ARROW. BACK-TILTED BLACK",
  "BOTTOM COMPRESSED DASHED DOUBLE FINGER-POST FRONT-TILTED HAND. HARPOON HEAVY LEFT-SHADED",
  "OPEN-HEADED PAIRED QUADRUPLE RIGHT-SHADED ROCKET. SANS-SERIF SQUARED SQUIGGLE TOP TRIANGLE",
  "TRIANGLE-HEADED TRIPLE TWO TWO-HEADED WAVE WHITE; RING. ABOVE. BUOY. EQUAL IN OPERATOR.",
  "POINT.; RINGED PLANET.; RINGING BELL.; RISING DIAGONAL; RLE.; RLI.; RLM.; RLO.; ROASTED",
  "SWEET; ROBOT FACE.; ROCK.; ROCKET.; ROLL OF; ROLLED-UP NEWSPAPER.; ROLLER COASTER. SKATE.;",
  "ROLLING ON; ROMAN AS CENTURIAL DENARIUS DIMIDIA DUPONDIUS NUMERAL QUINARIUS SEMUNCIA",
  "SESTERTIUS SEXTANS SEXTULA SILIQUA UNCIA; ROOSTER.; ROSE.; ROSETTE.; ROTATED CAPITAL FLORAL",
  "HEAVY LIGHT WHITE; ROUND PUSHPIN. TARGET.; ROUNDED SYMBOL; ROWBOAT.; RS.; RUBLE SIGN.; RUGBY",
  "FOOTBALL.; RULE-DELAYED.; RUMI DIGIT FRACTION NUMBER; RUNIC ARLAUG BELGTHOR CROSS LETTER",
  "MULTIPLE SINGLE TVIMADUR; RUNNER.; RUNNING SHIRT; RUPEE SIGN.; RUSSIAN ASTROLOGICAL; S IN;",
  "SAFETY PIN. VEST.; SAGITTARIUS.; SAILBOAT.; SAKE BOTTLE; SALT SHAKER.; SALTIRE.; SALUTING",
  "FACE.; SAMARITAN ABBREVIATION LETTER MARK MODIFIER PUNCTUATION VOWEL; SANDWICH.; SANS-SERIF",
  "HEAVY INTERROBANG; SARI.; SATELLITE. ANTENNA.; SATURN.; SAURASHTRA CONSONANT DANDA. DIGIT",
  "DOUBLE LETTER SIGN VOWEL; SAUROPOD.; SAXOPHONE.; SCALES.; SCARF.; SCHOOL. SATCHEL.; SCI.;",
  "SCOOTER.; SCORPION.; SCORPIUS.; SCREEN.; SCREWDRIVER.; SCRIPT CAPITAL LIGATURE SMALL;",
  "SCROLL.; SCRUPLE.; SEAL.; SEAT.; SECOND PLACE; SECTION SIGN.; SECTOR.; SEDNA.; SEE-NO-EVIL",
  "MONKEY.; SEEDLING.; SEGMENT.; SEGMENTED DIGIT; SELFIE.; SEMICOLON.; SEMIDIRECT PRODUCT;",
  "SEMISEXTILE.; SEPARATED SYMBOL.; SERIOUS FACE; SERVICE MARK.; SESAME DOT.; SESQUIQUADRATE.;",
  "SET MINUS. TRANSMIT; SEWING NEEDLE.; SEXTILE.; SGC.; SHADOWED WHITE; SHALLOW PAN; SHAMROCK.;",
  "SHARADA ABBREVIATION CONTINUATION DANDA. DIGIT DOUBLE EKAM. EXTRA HEADSTROKE. LETTER OM.",
  "SANDHI SECTION SEPARATOR. SIGN SUTRA VOWEL; SHARK.; SHAVED ICE.; SHAVIAN LETTER; SHEEP.;",
  "SHIELD.; SHIFT IN. OUT.; SHINTO SHRINE.; SHIP.; SHOCKED FACE; SHOOTING STAR.; SHOPPING BAGS.",
  "TROLLEY.; SHORT BACKSLANTED BENT DOWN LEFT RIGHTWARDS SLANTED UP; SHORTCAKE.; SHORTHAND",
  "FORMAT; SHORTS.; SHOULDERED OPEN; SHOWER.; SHRIMP.; SHRUG.; SHUFFLE PRODUCT.; SHY.; SI.;",
  "SIDDHAM DANDA. DOUBLE END LETTER REPETITION SECTION SEPARATOR SIGN VOWEL; SIDEWAYS BLACK",
  "WHITE; SIGN OF; SIGNWRITING AIR BREATH BRUSH CHEEKS COLON. COMMA. DREAMY DYNAMIC EARS.",
  "EXCITEMENT. EYE EYEBROWS EYEGAZE-FLOORPLANE EYEGAZE-WALLPLANE EYELASHES EYES FACE FILL",
  "FINGER. FLICK FLOORPLANE FOREHEAD FULL GRASP HAIR. HAND-ANGLE HAND-ANGLE. HAND-CIRCLE",
  "HAND-CIRCLE. HAND-CLAW HAND-CLAW. HAND-CUP HAND-CUP. HAND-CURLICUE HAND-CURLICUE. HAND-FIST",
  "HAND-FIST. HAND-FLAT HAND-FLAT. HAND-HINGE HAND-HINGE. HAND-HOOK HAND-HOOK. HAND-OVAL",
  "HAND-OVAL. HEAD HEAD. LIMB LIP LIPS LOCATION LOCATION-FLOORPLANE LOCATION-WALLPLANE MOUTH",
  "MOVEMENT-DIAGONAL MOVEMENT-FLOORPLANE MOVEMENT-HINGE MOVEMENT-WALLPLANE NECK. NOSE",
  "PARENTHESIS. ROTATION ROTATION-FLOORPLANE ROTATION-WALLPLANE RUB SEMICOLON. SHOULDER SQUEEZE",
  "STRIKE SURFACE TEETH TEETH. TENSE TONGUE TORSO-FLOORPLANE TORSO-WALLPLANE TOUCH",
  "TRAVEL-FLOORPLANE TRAVEL-WALLPLANE UPPER WALLPLANE; SILHOUETTE OF; SIMILAR ABOVE MINUS OR;",
  "SINE WAVE.; SINGLE CHARACTER GRAPHIC HIGH-REVERSED- LEFT-POINTING LOW- RIGHT-POINTING SHIFT;",
  "SINGLE-SHIFT-.; SINHALA ARCHAIC LETTER LITH PUNCTUATION SIGN VOWEL; SIX PETALLED POINTED;",
  "SIX-PER-EM SPACE.; SIXTEEN POINTED; SKATEBOARD.; SKI AND; SKIER.; SKULL. AND; SKUNK.; SLANTED",
  "EQUAL NORTH; SLAVONIC ASTERISK.; SLED.; SLEEPING ACCOMMODATION. FACE. SYMBOL.; SLEEPY FACE.;",
  "SLEUTH OR; SLICE OF; SLIGHTLY FROWNING SMILING; SLOPE.; SLOPING LARGE; SLOT MACHINE.; SLOTH.;",
  "SMALL AIRPLANE. AMPERSAND. ASTERISK. BLUE COLON. COMMA. COMMERCIAL CONTAINS DOLLAR ELEMENT EM",
  "EQUALS EXCLAMATION FULL GREATER-THAN HYPHEN-MINUS. IDEOGRAPHIC LEFT LESS-THAN NUMBER ORANGE",
  "PERCENT PLUS QUESTION REVERSE RIGHT ROMAN SEMICOLON. TILDE. TWO VEE; SMALLER THAN THAN.;",
  "SMASH PRODUCT.; SMILE.; SMILING CAT FACE; SMIRKING FACE.; SMOKING SYMBOL.; SNAIL.; SNAKE.;",
  "SNEEZING FACE.; SNOW CAPPED; SNOWBOARDER.; SNOWFLAKE.; SNOWMAN. WITHOUT; SO.; SOCCER BALL.;",
  "SOCKS.; SOFT HYPHEN. ICE SHELL; SOFTBALL.; SOFTWARE-FUNCTION SYMBOL.; SOGDIAN COMBINING",
  "INDEPENDENT LETTER NUMBER PUNCTUATION; SOH.; SOLID QUILT; SOLIDUS. WITH; SOM SIGN.; SOON",
  "WITH; SORA SOMPENG; SOS.; SOUND RECORDING; SOUTH EAST WEST; SOYOMBO CLUSTER-INITIAL FINAL",
  "GEMINATION HEAD LETTER MARK SIGN SUBJOINER. TERMINAL VOWEL; SP.; SPA.; SPACE.; SPAGHETTI.;",
  "SPARKLE.; SPARKLES.; SPARKLING HEART.; SPEAK-NO-EVIL MONKEY.; SPEAKER. WITH; SPEAKING HEAD;",
  "SPEECH BALLOON.; SPEEDBOAT.; SPESMILO SIGN.; SPHERICAL ANGLE ANGLE.; SPIDER. WEB.; SPIRAL",
  "CALENDAR NOTE SHELL.; SPLASHING SWEAT; SPONGE.; SPOOL OF; SPOON.; SPORTS MEDAL.; SPOUTING",
  "WHALE.; SQUARE A AARU. AM. ANPEA. APAATO. ARUHUA. AU. BAARERU. BAR. BEETA. BIRU. BORUTO. BQ.",
  "BUSSYERU. C CAL. CAP. CC. CD. CM CM. CO. CORPORATION. CUP. DA. DAASU. DB. DESI. DJ. DL. DM",
  "DM. DORU. EEKAA. ERA ERG. ESUKUUDO. EV. FM. FOOT. FOUR GAL. GANMA. GARON. GB. GHZ. GIGA.",
  "GINII. GIRUDAA. GPA. GURAMU. GURAMUTON. GY. HA. HAITU. HEKUTAARU. HERUTU. HG. HIRAGANA HON.",
  "HOON. HOORU. HP. HPA. HUARADDO. HUIITO. HURAN. HZ. IMAGE IN. ININGU. INTI. IU. K KA. KAIRI.",
  "KARATTO. KARORII. KB. KCAL. KEESU. KG. KHZ. KIRO. KIROGURAMU. KIROMEETORU. KIROWATTO. KK. KL.",
  "KM KM. KOOPO. KORUNA. KPA. KT. KUROONE. KURUZEIRO. KV. KW. KYURII. LEFT LM. LN. LOG. LOZENGE.",
  "LX. M MA. MAHHA. MAIKURO. MAIRU. MANSYON. MARUKU. MB MB. MEETORU. MEGA. MEGATON. MG. MHZ.",
  "MIKURON. MIL. MIRI. MIRIBAARU. ML. MM MM. MOL. MPA. MS. MU MV MV. MW MW. NA. NANO. NF. NM.",
  "NOTTO. NS. NV. NW. ONSU. OOMU. OV. PA PA. PAASENTO. PAATU. PC. PEEZI. PENIHI. PENSU.",
  "PESO. PF. PH. PIASUTORU. PIKO. PIKURU. PM. POINTO. PONDO. POSITION PPM. PR. PS. PV. PW. RAD",
  "RAD. REMU. RENTOGEN. RIGHT RIRA. RITTORU. ROOT. RUPII. RUUBURU. SAIKURU. SANTIIMU. SENTI.",
  "SENTO. SIRINGU. SR. SV. TARGET. THZ. TON. UON. V WATTO. WB. WITH YAADO. YAARU. YUAN.; SQUARED",
  "ASTERISK. CJK CL. COOL. DOT EIGHT FALLING FIVE FOUR FREE. HC. HDR. HI-RES. HV. ID. KATAKANA",
  "KEY. LATIN LOGICAL LOSSLESS. MINUS. MV. NEW. NG. OK. ONE PLUS. PPV. RISING SALTIRE. SD.",
  "SECOND SEVEN SHV. SIXTY SMALL SOS. SQUARE. SS. THREE TIMES. TWENTY-TWO TWO UHD. UP VOD. VS.",
  "WC.; SQUAT BLACK; SQUID.; SS.; SSA.; ST.; STADIUM.; STAFF OF; STAMPED ENVELOPE.; STANDING",
  "PERSON.; STAR AND EQUALS. OF OPERATOR. WITH; START OF; STATION.; STATUE OF; STEAM",
  "LOCOMOTIVE.; STEAMING BOWL.; STENOGRAPHIC FULL; STETHOSCOPE.; STICK FIGURE FIGURE.; STOCK",
  "CHART.; STOPWATCH.; STRAIGHT RULER.; STRAIGHTNESS.; STRAWBERRY.; STRESS OUTLINED; STRICTLY",
  "EQUIVALENT; STRING TERMINATOR.; STS.; STUDIO MICROPHONE.; STUFFED FLATBREAD.; STUPA.; STX.;",
  "SUB.; SUBSCRIPT EIGHT. EQUALS FIVE. FOUR. LEFT MINUS. NINE. ONE. PLUS RIGHT SEVEN. SIX.",
  "THREE. TWO. ZERO.; SUBSET ABOVE OF OF. WITH; SUBSTITUTE.; SUCCEEDS. ABOVE BUT OR UNDER;",
  "SUMMATION BOTTOM. TOP. WITH; SUN. BEHIND WITH; SUNDANESE AVAGRAHA. CONSONANT DIGIT LETTER",
  "PUNCTUATION SIGN VOWEL; SUNFLOWER.; SUNRISE. OVER; SUNSET OVER; SUPERHERO.; SUPERSCRIPT",
  "EIGHT. EQUALS FIVE. FOUR. LATIN LEFT MINUS. NINE. ONE. PLUS RIGHT SEVEN. SIX. THREE. TWO.",
  "ZERO.; SUPERSET ABOVE BESIDE OF OF. PRECEDING WITH; SUPERVILLAIN.; SURFACE INTEGRAL.;",
  "SURFER.; SUSHI.; SUSPENSION RAILWAY.; SWAN.; SWASH AMPERSAND; SWIMMER.; SWUNG DASH.; SYLOTI",
  "NAGRI; SYMBOL FOR; SYMMETRY.; SYN.; SYNAGOGUE.; SYNCHRONOUS IDLE.; SYRIAC ABBREVIATION",
  "BARREKH. COLON CONTRACTION. DOTTED END ESASA FEMININE HARKLEAN HBASA HBASA-ESASA HORIZONTAL",
  "LETTER MUSIC. OBLIQUE PTHAHA QUSHSHAYA. RBASA RUKKAKHA. RWAHA. SUBLINEAR SUPRALINEAR THREE",
  "TWO ZQAPHA; SYRINGE.; T-REX.; T-SHIRT.; TAB.; TABLE TENNIS; TACO.; TAG AMPERSAND. APOSTROPHE.",
  "ASTERISK. CIRCUMFLEX COLON. COMMA. COMMERCIAL DIGIT DOLLAR EQUALS EXCLAMATION FULL GRAVE",
  "GREATER-THAN HYPHEN-MINUS. LATIN LEFT LESS-THAN LOW NUMBER PERCENT PLUS QUESTION QUOTATION",
  "REVERSE RIGHT SEMICOLON. SOLIDUS. SPACE. TILDE. VERTICAL; TAGALOG LETTER SIGN VOWEL; TAGBANWA",
  "LETTER VOWEL; TAI LE THAM VIET; TAKEOUT BOX.; TAKRI ABBREVIATION DIGIT LETTER SIGN VOWEL;",
  "TALLY MARK; TAMALE.; TAMIL AND AS AU CREDIT CURRENT DAY DEBIT DIGIT DRY FRACTION IN LAND",
  "LETTER MONTH NUMBER OM. PUNCTUATION RUPEE SALT SIGN SPENT STARTING TOTAL TRADITIONAL VOWEL",
  "WET YEAR; TANABATA TREE.; TANGERINE.; TANGSA DIGIT LETTER; TANGUT COMPONENT-. ITERATION; TAPE",
  "CARTRIDGE. DRIVE.; TAURUS.; TAXI.; TEACUP WITHOUT; TEAPOT.; TEAR-OFF CALENDAR.;",
  "TEARDROP-BARBED RIGHTWARDS; TEARDROP-SPOKED ASTERISK.; TEDDY BEAR.; TELEPHONE LOCATION ON",
  "RECEIVER RECEIVER. RECORDER. SIGN.; TELESCOPE.; TELEVISION.; TELUGU AI DIGIT FRACTION LENGTH",
  "LETTER SIGN VOWEL; TENGE SIGN.; TENNIS RACQUET; TENT.; TEST TUBE.; TETRAGRAM FOR; THAANA",
  "AABAAFILI. ABAFILI. EBEFILI. EEBEEFILI. EYBEYFILI. IBIFILI. LETTER OABOAFILI. OBOFILI.",
  "OOBOOFILI. SUKUN. UBUFILI.; THAI CHARACTER CURRENCY DIGIT; THERE DOES EXISTS.; THEREFORE.;",
  "THERMODYNAMIC.; THERMOMETER.; THIN GREEK SALTIRE. SPACE.; THINKING FACE.; THIRD PLACE; THONG",
  "SANDAL.; THOUGHT BALLOON.; THREE BUTTON CONSECUTIVE DIMENSIONAL DOT LEFTWARDS LINES NETWORKED",
  "POINTED RAYS RIGHTWARDS SPEECH; THREE-D BOTTOM-LIGHTED LEFT-LIGHTED RIGHT-LIGHTED",
  "TOP-LIGHTED; THREE-EM DASH.; THREE-PER-EM SPACE.; THUMBS DOWN UP; THUNDER CLOUD;",
  "THUNDERSTORM.; TIBETAN ASTROLOGICAL CANTILLATION DIGIT KU LETTER LOGOTYPE MARK SIGN SUBJOINED",
  "SYLLABLE SYMBOL VOWEL; TICKET.; TIE OVER; TIFINAGH CONSONANT LETTER MODIFIER SEPARATOR;",
  "TIGER. FACE.; TIGHT TRIFOLIATE; TILDE. OPERATOR OPERATOR. WITH; TIMER CLOCK.; TIMES WITH;",
  "TINY. TWO; TIRED FACE.; TIRHUTA ABBREVIATION ANJI. DIGIT GVANG. LETTER OM. SIGN VOWEL;",
  "TIRONIAN SIGN; TOILET.; TOKYO TOWER.; TOMATO.; TONGUE.; TOOLBOX.; TOOTH.; TOOTHBRUSH.; TOP",
  "ARC CURLY HALF HAT. LEFT PARENTHESIS. RIGHT SQUARE TORTOISE WITH; TORTOISE SHELL; TOTAL",
  "RUNOUT.; TOTO LETTER SIGN; TRACKBALL.; TRACTOR.; TRADE MARK; TRAIN.; TRAM. CAR.; TRANSPLUTO.;",
  "TRANSVERSAL INTERSECTION.; TRIANGLE WITH; TRIANGLE-HEADED RIGHTWARDS; TRIANGULAR BULLET. FLAG",
  "RULER.; TRICOLON.; TRIDENT EMBLEM.; TRIGRAM FOR; TRIPLE COLON DAGGER. HORIZONTAL INTEGRAL.",
  "NESTED PLUS. PRIME. SOLIDUS TILDE. VERTICAL; TROLL.; TROLLEYBUS.; TROPHY.; TROPICAL DRINK.",
  "FISH.; TRUE. LIGHT; TRUMPET.; TUGRIK SIGN.; TULIP.; TUMBLER GLASS.; TURKEY.; TURKISH LIRA;",
  "TURNED AMPERSAND. ANGLE. BLACK CAPITAL COMMA. DAGGER. DIGIT GREEK NORTH NOT OK SANS-SERIF",
  "SEMICOLON. SMALL SOUTH WHITE; TURTLE.; TWELVE POINTED; TWISTED RIGHTWARDS; TWO ASTERISKS",
  "BUTTON CONSECUTIVE DOT DOTS HEARTS. INTERSECTING JOINED LOGICAL MEN SPEECH WOMEN; TWO-EM",
  "DASH.; UGARITIC LETTER WORD; UMBRELLA. ON WITH; UNAMUSED FACE.; UNCERTAINTY SIGN.; UNDERTIE.;",
  "UNDO SYMBOL.; UNICORN FACE.; UNION. ABOVE BESIDE WITH; UNIT SEPARATOR.; UNITED SYMBOL.;",
  "UNIVERSAL RECYCLING; UNMARRIED PARTNERSHIP; UP ARROW ARROWHEAD ARROWHEAD. BARB DOWN FISH",
  "RIGHT TACK TACK.; UP-POINTING AIRPLANE. MILITARY RED SMALL TRIANGLE; UPPER AND BLADE FIVE",
  "HALF LEFT ONE RIGHT SEVEN THREE TRIANGULAR; UPSIDE-DOWN FACE.; UPWARDS ANCORA. ARROW ARROW.",
  "BLACK COMPRESSED DASHED DOUBLE FINGER-POST HARPOON HEAVY PAIRED QUADRUPLE ROCKET. SANS-SERIF",
  "SQUARED TRIANGLE TRIANGLE-HEADED TRIPLE TWO TWO-HEADED WHITE; URANUS.; US.; VAI COMMA. DIGIT",
  "FULL QUESTION SYLLABLE SYMBOL; VAMPIRE.; VARIATION SELECTOR-.; VECTOR OR; VEDIC SIGN TONE;",
  "VERSICLE.; VERTICAL BAR ELLIPSIS. FOUR IDEOGRAPHIC KANA LINE LINE. MALE ONE SIX TAB",
  "TABULATION TABULATION. TILDE. TRAFFIC ZIGZAG; VERY BOLD HEAVY MUCH; VESTA.; VIBRATION MODE.;",
  "VICTORY HAND.; VIDEO CAMERA. GAME.; VIDEOCASSETTE.; VIETNAMESE ALTERNATE; VIEWDATA SQUARE.;",
  "VIOLIN.; VIRGO.; VITHKUQI CAPITAL SMALL; VOIDED GREEK; VOLCANO.; VOLLEYBALL.; VOLUME",
  "INTEGRAL.; VS.; VT.; VTS.; VULCANUS.; VULGAR FRACTION; WAFFLE.; WANCHO DIGIT LETTER NGUN",
  "TONE; WANING CRESCENT GIBBOUS; WARANG CITI; WARNING SIGN.; WASTEBASKET.; WATCH.; WATER",
  "BUFFALO. CLOSET. POLO. WAVE.; WATERMELON.; WAVE ARROW DASH.; WAVING BLACK HAND WHITE; WAVY",
  "DASH. LINE. LOW OVERLINE.; WAXING CRESCENT GIBBOUS; WEARY CAT FACE.; WEDDING.; WEDGE-TAILED",
  "RIGHTWARDS; WEIERSTRASS ELLIPTIC; WEIGHT LIFTER.; WEST SYRIAC; WHALE.; WHEEL. OF; WHEELCHAIR",
  "SYMBOL.; WHITE ARROW BULLET. CHESS CIRCLE CIRCLE. CLUB CONCAVE-SIDED DIAMOND DIAMOND. DOWN",
  "DOWN-POINTING DRAUGHTS EXCLAMATION FLAG FLAG. FLORETTE. FLOWER. FOUR FROWNING HARD HEART",
  "HEART. HEAVY HEXAGON. HORIZONTAL HOURGLASS. LARGE LATIN LEFT LEFT-POINTING LOZENGE MEDIUM",
  "MOON NIB. PARALLELOGRAM. PENNANT. PENTAGON. QUESTION RECTANGLE. RIGHT RIGHT-POINTING",
  "SCISSORS. SESAME SHOGI SMALL SMILING SPADE SQUARE SQUARE. STAR. SUN SUN. TELEPHONE. TOUCHTONE",
  "TRAPEZIUM. TRIANGLE TWO-WAY UP UP-POINTING VERTICAL VERY; WHITE-FEATHERED RIGHTWARDS;",
  "WIDE-HEADED DOWNWARDS LEFTWARDS NORTH RIGHTWARDS SOUTH UPWARDS; WIGGLY VERTICAL; WILTED",
  "FLOWER.; WIND BLOWING CHIME.; WINDOW.; WINE GLASS.; WINKING FACE.; WIRED KEYBOARD.; WJ.; WOLF",
  "FACE.; WOMAN. WITH; WOMANS BOOTS. CLOTHES. HAT. SANDAL.; WOMENS SYMBOL.; WON SIGN.; WOOD.;",
  "WORD JOINER. SEPARATOR; WORLD MAP.; WORM.; WORRIED FACE.; WRAPPED PRESENT.; WREATH PRODUCT.;",
  "WRENCH.; WRESTLERS.; WRITING HAND.; X IN; X-RAY.; XIANGQI BLACK RED; XOR.; YAWNING FACE.;",
  "YELLOW HEART.; YEN SIGN.; YEZIDI COMBINING HYPHENATION LETTER; YI RADICAL SYLLABLE; YIN",
  "YANG.; YO-YO.; Z NOTATION; ZANABAZAR SQUARE; ZEBRA FACE.; ZERO WIDTH; ZEUS.; ZIPPER-MOUTH",
  "FACE.; ZNAMENNY COMBINING NEUME PRIZNAK; ZOMBIE.; ZWJ.; ZWNBSP.; ZWNJ.; ZWSP."]

def nameEntries : List (List String) :=
  ((" ".intercalate nameBeginnings).splitOn "; ").map (·.splitOn " ")

/-- May a name of these words be in the list? -/
def isListedName : List String → Bool
  | [] => false
  | [word] => nameEntries.any fun entry => entry.head? = some (word ++ ".")
  | first :: second :: rest =>
    let marked := if rest.isEmpty then second ++ "." else second
    rest.all (· ≠ "") && nameEntries.any fun
      | [] => false
      | head :: seconds => (head = first || head = first ++ ".") && seconds.contains marked

/-- The names of the first 256 characters, in order. A slash stands between the names of one. -/
def latinNames : List String := [
  "NUL/NULL", "SOH/START OF HEADING", "START OF TEXT/STX", "END OF TEXT/ETX",
  "END OF TRANSMISSION/EOT", "ENQ/ENQUIRY", "ACK/ACKNOWLEDGE", "ALERT/BEL", "BACKSPACE/BS",
  "CHARACTER TABULATION/HORIZONTAL TABULATION/HT/TAB", "END OF LINE/EOL/LF/LINE FEED/NEW LINE/NL",
  "LINE TABULATION/VERTICAL TABULATION/VT", "FF/FORM FEED", "CARRIAGE RETURN/CR",
  "LOCKING-SHIFT ONE/SHIFT OUT/SO", "LOCKING-SHIFT ZERO/SHIFT IN/SI", "DATA LINK ESCAPE/DLE",
  "DC1/DEVICE CONTROL ONE", "DC2/DEVICE CONTROL TWO", "DC3/DEVICE CONTROL THREE",
  "DC4/DEVICE CONTROL FOUR", "NAK/NEGATIVE ACKNOWLEDGE", "SYN/SYNCHRONOUS IDLE",
  "END OF TRANSMISSION BLOCK/ETB", "CAN/CANCEL", "END OF MEDIUM/EOM", "SUB/SUBSTITUTE",
  "ESC/ESCAPE", "FILE SEPARATOR/FS/INFORMATION SEPARATOR FOUR",
  "GROUP SEPARATOR/GS/INFORMATION SEPARATOR THREE", "INFORMATION SEPARATOR TWO/RECORD SEPARATOR/RS",
  "INFORMATION SEPARATOR ONE/UNIT SEPARATOR/US", "SPACE/SP", "EXCLAMATION MARK", "QUOTATION MARK",
  "NUMBER SIGN", "DOLLAR SIGN", "PERCENT SIGN", "AMPERSAND", "APOSTROPHE", "LEFT PARENTHESIS",
  "RIGHT PARENTHESIS", "ASTERISK", "PLUS SIGN", "COMMA", "HYPHEN-MINUS", "FULL STOP", "SOLIDUS",
  "DIGIT ZERO", "DIGIT ONE", "DIGIT TWO", "DIGIT THREE", "DIGIT FOUR", "DIGIT FIVE", "DIGIT SIX",
  "DIGIT SEVEN", "DIGIT EIGHT", "DIGIT NINE", "COLON", "SEMICOLON", "LESS-THAN SIGN", "EQUALS SIGN",
  "GREATER-THAN SIGN", "QUESTION MARK", "COMMERCIAL AT", "LATIN CAPITAL LETTER A",
  "LATIN CAPITAL LETTER B", "LATIN CAPITAL LETTER C", "LATIN CAPITAL LETTER D",
  "LATIN CAPITAL LETTER E", "LATIN CAPITAL LETTER F", "LATIN CAPITAL LETTER G",
  "LATIN CAPITAL LETTER H", "LATIN CAPITAL LETTER I", "LATIN CAPITAL LETTER J",
  "LATIN CAPITAL LETTER K", "LATIN CAPITAL LETTER L", "LATIN CAPITAL LETTER M",
  "LATIN CAPITAL LETTER N", "LATIN CAPITAL LETTER O", "LATIN CAPITAL LETTER P",
  "LATIN CAPITAL LETTER Q", "LATIN CAPITAL LETTER R", "LATIN CAPITAL LETTER S",
  "LATIN CAPITAL LETTER T", "LATIN CAPITAL LETTER U", "LATIN CAPITAL LETTER V",
  "LATIN CAPITAL LETTER W", "LATIN CAPITAL LETTER X", "LATIN CAPITAL LETTER Y",
  "LATIN CAPITAL LETTER Z", "LEFT SQUARE BRACKET", "REVERSE SOLIDUS", "RIGHT SQUARE BRACKET",
  "CIRCUMFLEX ACCENT", "LOW LINE", "GRAVE ACCENT", "LATIN SMALL LETTER A", "LATIN SMALL LETTER B",
  "LATIN SMALL LETTER C", "LATIN SMALL LETTER D", "LATIN SMALL LETTER E", "LATIN SMALL LETTER F",
  "LATIN SMALL LETTER G", "LATIN SMALL LETTER H", "LATIN SMALL LETTER I", "LATIN SMALL LETTER J",
  "LATIN SMALL LETTER K", "LATIN SMALL LETTER L", "LATIN SMALL LETTER M", "LATIN SMALL LETTER N",
  "LATIN SMALL LETTER O", "LATIN SMALL LETTER P", "LATIN SMALL LETTER Q", "LATIN SMALL LETTER R",
  "LATIN SMALL LETTER S", "LATIN SMALL LETTER T", "LATIN SMALL LETTER U", "LATIN SMALL LETTER V",
  "LATIN SMALL LETTER W", "LATIN SMALL LETTER X", "LATIN SMALL LETTER Y", "LATIN SMALL LETTER Z",
  "LEFT CURLY BRACKET", "VERTICAL LINE", "RIGHT CURLY BRACKET", "TILDE", "DEL/DELETE",
  "PAD/PADDING CHARACTER", "HIGH OCTET PRESET/HOP", "BPH/BREAK PERMITTED HERE", "NBH/NO BREAK HERE",
  "IND/INDEX", "NEL/NEXT LINE", "SSA/START OF SELECTED AREA", "END OF SELECTED AREA/ESA",
  "CHARACTER TABULATION SET/HORIZONTAL TABULATION SET/HTS",
  "CHARACTER TABULATION WITH JUSTIFICATION/HORIZONTAL TABULATION WITH JUSTIFICATION/HTJ",
  "LINE TABULATION SET/VERTICAL TABULATION SET/VTS", "PARTIAL LINE DOWN/PARTIAL LINE FORWARD/PLD",
  "PARTIAL LINE BACKWARD/PARTIAL LINE UP/PLU", "REVERSE INDEX/REVERSE LINE FEED/RI",
  "SINGLE SHIFT TWO/SINGLE-SHIFT-2/SS2", "SINGLE SHIFT THREE/SINGLE-SHIFT-3/SS3",
  "DCS/DEVICE CONTROL STRING", "PRIVATE USE ONE/PRIVATE USE-1/PU1",
  "PRIVATE USE TWO/PRIVATE USE-2/PU2", "SET TRANSMIT STATE/STS", "CANCEL CHARACTER/CCH",
  "MESSAGE WAITING/MW", "SPA/START OF GUARDED AREA/START OF PROTECTED AREA",
  "END OF GUARDED AREA/END OF PROTECTED AREA/EPA", "SOS/START OF STRING",
  "SGC/SINGLE GRAPHIC CHARACTER INTRODUCER", "SCI/SINGLE CHARACTER INTRODUCER",
  "CONTROL SEQUENCE INTRODUCER/CSI", "ST/STRING TERMINATOR", "OPERATING SYSTEM COMMAND/OSC",
  "PM/PRIVACY MESSAGE", "APC/APPLICATION PROGRAM COMMAND", "NO-BREAK SPACE/NBSP",
  "INVERTED EXCLAMATION MARK", "CENT SIGN", "POUND SIGN", "CURRENCY SIGN", "YEN SIGN", "BROKEN BAR",
  "SECTION SIGN", "DIAERESIS", "COPYRIGHT SIGN", "FEMININE ORDINAL INDICATOR",
  "LEFT-POINTING DOUBLE ANGLE QUOTATION MARK", "NOT SIGN", "SOFT HYPHEN/SHY", "REGISTERED SIGN",
  "MACRON", "DEGREE SIGN", "PLUS-MINUS SIGN", "SUPERSCRIPT TWO", "SUPERSCRIPT THREE",
  "ACUTE ACCENT", "MICRO SIGN", "PILCROW SIGN", "MIDDLE DOT", "CEDILLA", "SUPERSCRIPT ONE",
  "MASCULINE ORDINAL INDICATOR", "RIGHT-POINTING DOUBLE ANGLE QUOTATION MARK",
  "VULGAR FRACTION ONE QUARTER", "VULGAR FRACTION ONE HALF", "VULGAR FRACTION THREE QUARTERS",
  "INVERTED QUESTION MARK", "LATIN CAPITAL LETTER A WITH GRAVE",
  "LATIN CAPITAL LETTER A WITH ACUTE", "LATIN CAPITAL LETTER A WITH CIRCUMFLEX",
  "LATIN CAPITAL LETTER A WITH TILDE", "LATIN CAPITAL LETTER A WITH DIAERESIS",
  "LATIN CAPITAL LETTER A WITH RING ABOVE", "LATIN CAPITAL LETTER AE",
  "LATIN CAPITAL LETTER C WITH CEDILLA", "LATIN CAPITAL LETTER E WITH GRAVE",
  "LATIN CAPITAL LETTER E WITH ACUTE", "LATIN CAPITAL LETTER E WITH CIRCUMFLEX",
  "LATIN CAPITAL LETTER E WITH DIAERESIS", "LATIN CAPITAL LETTER I WITH GRAVE",
  "LATIN CAPITAL LETTER I WITH ACUTE", "LATIN CAPITAL LETTER I WITH CIRCUMFLEX",
  "LATIN CAPITAL LETTER I WITH DIAERESIS", "LATIN CAPITAL LETTER ETH",
  "LATIN CAPITAL LETTER N WITH TILDE", "LATIN CAPITAL LETTER O WITH GRAVE",
  "LATIN CAPITAL LETTER O WITH ACUTE", "LATIN CAPITAL LETTER O WITH CIRCUMFLEX",
  "LATIN CAPITAL LETTER O WITH TILDE", "LATIN CAPITAL LETTER O WITH DIAERESIS",
  "MULTIPLICATION SIGN", "LATIN CAPITAL LETTER O WITH STROKE", "LATIN CAPITAL LETTER U WITH GRAVE",
  "LATIN CAPITAL LETTER U WITH ACUTE", "LATIN CAPITAL LETTER U WITH CIRCUMFLEX",
  "LATIN CAPITAL LETTER U WITH DIAERESIS", "LATIN CAPITAL LETTER Y WITH ACUTE",
  "LATIN CAPITAL LETTER THORN", "LATIN SMALL LETTER SHARP S", "LATIN SMALL LETTER A WITH GRAVE",
  "LATIN SMALL LETTER A WITH ACUTE", "LATIN SMALL LETTER A WITH CIRCUMFLEX",
  "LATIN SMALL LETTER A WITH TILDE", "LATIN SMALL LETTER A WITH DIAERESIS",
  "LATIN SMALL LETTER A WITH RING ABOVE", "LATIN SMALL LETTER AE",
  "LATIN SMALL LETTER C WITH CEDILLA", "LATIN SMALL LETTER E WITH GRAVE",
  "LATIN SMALL LETTER E WITH ACUTE", "LATIN SMALL LETTER E WITH CIRCUMFLEX",
  "LATIN SMALL LETTER E WITH DIAERESIS", "LATIN SMALL LETTER I WITH GRAVE",
  "LATIN SMALL LETTER I WITH ACUTE", "LATIN SMALL LETTER I WITH CIRCUMFLEX",
  "LATIN SMALL LETTER I WITH DIAERESIS", "LATIN SMALL LETTER ETH",
  "LATIN SMALL LETTER N WITH TILDE", "LATIN SMALL LETTER O WITH GRAVE",
  "LATIN SMALL LETTER O WITH ACUTE", "LATIN SMALL LETTER O WITH CIRCUMFLEX",
  "LATIN SMALL LETTER O WITH TILDE", "LATIN SMALL LETTER O WITH DIAERESIS", "DIVISION SIGN",
  "LATIN SMALL LETTER O WITH STROKE", "LATIN SMALL LETTER U WITH GRAVE",
  "LATIN SMALL LETTER U WITH ACUTE", "LATIN SMALL LETTER U WITH CIRCUMFLEX",
  "LATIN SMALL LETTER U WITH DIAERESIS", "LATIN SMALL LETTER Y WITH ACUTE",
  "LATIN SMALL LETTER THORN", "LATIN SMALL LETTER Y WITH DIAERESIS"]

def ideographRanges : List (Nat × Nat) := [
  (0x3400, 0x4DBF), (0x4E00, 0x9FFF), (0x20000, 0x2A6DF), (0x2A700, 0x2B738), (0x2B740, 0x2B81D),
  (0x2B820, 0x2CEA1), (0x2CEB0, 0x2EBE0), (0x30000, 0x3134A)]

/-- The value of a digit of a code point, whose letters are capitals. -/
def codePointDigit? (c : Char) : Option Nat :=
  if c.isDigit then some (c.toNat - 48)
  else if 'A' ≤ c && c ≤ 'F' then some (c.toNat - 55)
  else none

def ideographCode? (digits : List Char) : Option Nat :=
  if digits.length = 4 ∨ digits.length = 5 then
    (digits.mapM codePointDigit?).bind fun values =>
      let n := values.foldl (fun n d => 16 * n + d) 0
      if ideographRanges.any fun r => r.1 ≤ n && n ≤ r.2 then some n else none
  else none

def leadingSounds : List String :=
  ["G", "GG", "N", "D", "DD", "R", "M", "B", "BB", "S", "SS", "", "J", "JJ", "C", "K", "T", "P",
    "H"]

def vowelSounds : List String :=
  ["A", "AE", "YA", "YAE", "EO", "E", "YEO", "YE", "O", "WA", "WAE", "OE", "YO", "U", "WEO", "WE",
    "WI", "YU", "EU", "YI", "I"]

def trailingSounds : List String :=
  ["", "G", "GG", "GS", "N", "NJ", "NH", "D", "L", "LG", "LM", "LB", "LS", "LT", "LP", "LH", "M",
    "B", "BS", "S", "SS", "NG", "J", "C", "K", "T", "P", "H"]

/-- The code point of a syllable. Syllables are in the order of what they begin with, of their
vowels, and of what they end with. -/
def syllableCode? (s : String) : Option Nat :=
  leadingSounds.zipIdx.findSome? fun (l, i) =>
    vowelSounds.zipIdx.findSome? fun (v, j) =>
      trailingSounds.zipIdx.findSome? fun (t, k) =>
        if s = l ++ v ++ t then some (0xAC00 + (21 * i + j) * 28 + k) else none

def asciiCapital (c : Char) : Char := if c.isLower then c.toUpper else c

inductive NamedCharacter where
  | code (n : Nat)
  /-- The character is not among the first 256. -/
  | beyondLatin

/-- The character of a name. Only names in the lists may be written in small letters. -/
def namedCharacter? (name : List Char) : Option NamedCharacter :=
  let ideograph := "CJK UNIFIED IDEOGRAPH-".toList
  let syllable := "HANGUL SYLLABLE ".toList
  if ideograph.isPrefixOf name then
    (ideographCode? (name.drop ideograph.length)).map .code
  else if syllable.isPrefixOf name then
    (syllableCode? (String.ofList (name.drop syllable.length))).map .code
  else if !name.all fun c => c.isAlphanum || c = ' ' || c = '-' then none
  else
    let capitals := String.ofList (name.map asciiCapital)
    match latinNames.findIdx? fun entry => (entry.splitOn "/").contains capitals with
    | some n => some (.code n)
    | none =>
      let stems := (capitals.splitOn " ").map fun word =>
        String.ofList (word.toList.takeWhile fun c => !c.isDigit)
      if isListedName stems then some .beyondLatin else none

end Conformance.Text
