/-!
# Names of signs

The names of punctuation, currencies, arrows, mathematical and technical signs, boxes, shapes and
dingbats. Each row has the first character and the names from it on, as `BooksGateway.Text.CharName`
reads them.
-/

namespace BooksGateway.Text.CharName

/-- The names from U+2000 to U+2E7F, in rows. -/
def signs : List (Nat × String) := [
  (0x2000, "aEN QUADaEMnaEN SPACEaEMnaTHREE-PER-EMnaFOUR-PER-EMnaSIX-PER-EMnaFIGUREnaPUNCTUATIONn"),
  (0x2009, "aTHINnaHAIRnaZERO WIDTHncNON-JOINERcJOINERaLEFT-TO-RIGHT MARKaRIGHT-TO-LEFTnaHYPHEN"),
  (0x2011, "aNON-BREAKINGnaFIGURE DASHaENnaEMnaHORIZONTAL BARaDOUBLE VERTICAL LINEbLOWn"),
  (0x2018, "aLEFT SINGLE QUOTATION MARKaRIGHTpaSINGLE LOW-9obHIGH-REVERSED-9oaLEFT DOUBLEoaRIGHTp"),
  (0x201E, "aDOUBLE LOW-9obHIGH-REVERSED-9oaDAGGERaDOUBLEnaBULLETaTRIANGULARnaONE DOT LEADERaTWOo"),
  (0x2026, "aHORIZONTAL ELLIPSISaHYPHENATION POINTaLINE SEPARATORaPARAGRAPHn"),
  (0x202A, "aLEFT-TO-RIGHT EMBEDDINGaRIGHT-TO-LEFTnaPOP DIRECTIONAL FORMATTING"),
  (0x202D, "aLEFT-TO-RIGHT OVERRIDEaRIGHT-TO-LEFTnaNARROW NO-BREAK SPACEaPER MILLE SIGN"),
  (0x2031, "bTEN THOUSANDnaPRIMEaDOUBLEnaTRIPLEnaREVERSEDnbDOUBLEnbTRIPLEnaCARET"),
  (0x2039, "aSINGLE LEFT-POINTING ANGLE QUOTATION MARKbRIGHT-POINTINGpaREFERENCEn"),
  (0x203C, "aDOUBLE EXCLAMATIONnaINTERROBANGaOVERLINEaUNDERTIEaCHARACTER TIE"),
  (0x2041, "aCARET INSERTION POINTaASTERISMaHYPHEN BULLETaFRACTION SLASH"),
  (0x2045, "aLEFT SQUARE BRACKET WITH QUILLaRIGHTqaDOUBLE QUESTION MARKaQUESTION EXCLAMATIONn"),
  (0x2049, "aEXCLAMATION QUESTIONnaTIRONIAN SIGN ETaREVERSED PILCROW SIGNaBLACK LEFTWARDS BULLET"),
  (0x204D, "bRIGHTWARDSnaLOW ASTERISKaREVERSED SEMICOLONaCLOSE UP"),
  (0x2051, "aTWO ASTERISKS ALIGNED VERTICALLYaCOMMERCIAL MINUS SIGNaSWUNG DASHaINVERTED UNDERTIE"),
  (0x2055, "aFLOWER PUNCTUATION MARKaTHREE DOT PUNCTUATIONaQUADRUPLE PRIMEaFOUR DOT PUNCTUATION"),
  (0x2059, "aFIVEoaTWOoaFOUR DOT MARKaDOTTED CROSSaTRICOLONaVERTICAL FOUR DOTS"),
  (0x205F, "aMEDIUM MATHEMATICAL SPACEaWORD JOINERaFUNCTION APPLICATIONaINVISIBLE TIMESbSEPARATOR"),
  (0x2064, "bPLUS"),
  (0x2066, "aLEFT-TO-RIGHT ISOLATEaRIGHT-TO-LEFTnaFIRST STRONGnaPOP DIRECTIONALn"),
  (0x206A, "aINHIBIT SYMMETRIC SWAPPINGaACTIVATEoaINHIBIT ARABIC FORM SHAPINGaACTIVATEp"),
  (0x206E, "aNATIONAL DIGIT SHAPESaNOMINALoaSUPERSCRIPT ZERObLATIN SMALL LETTER I"),
  (0x2074, "bFOURbFIVEbSIXbSEVENbEIGHTbNINEbPLUS SIGNbMINUSbEQUALS SIGNbLEFT PARENTHESISbRIGHTn"),
  (0x207F, "bLATIN SMALL LETTER NaSUBSCRIPT ZERObONEbTWObTHREEbFOURbFIVEbSIXbSEVENbEIGHTbNINE"),
  (0x208A, "bPLUS SIGNbMINUSbEQUALS SIGNbLEFT PARENTHESISbRIGHTn"),
  (0x2090, "aLATIN SUBSCRIPT SMALL LETTER AeEeOeXeSCHWAeHeKeLeMeNePeSeT"),
  (0x20A0, "aEURO-CURRENCY SIGNaCOLONnaCRUZEIROnaFRENCH FRANCnaLIRAnaMILLnaNAIRAnaPESETAnaRUPEEn"),
  (0x20A9, "aWONnaNEW SHEQELnaDONGnaEUROnaKIPnaTUGRIKnaDRACHMAnaGERMAN PENNYnaPESOnaGUARANIn"),
  (0x20B3, "aAUSTRALnaHRYVNIAnaCEDInaLIVRE TOURNOISnaSPESMILOnaTENGEnaINDIAN RUPEEnaTURKISH LIRAn"),
  (0x20BB, "aNORDIC MARKnaMANATnaRUBLEnaLARInaBITCOINnaSOMn"),
  (0x20D0, "aCOMBINING LEFT HARPOON ABOVEbRIGHTobLONG VERTICAL LINE OVERLAYbSHORTp"),
  (0x20D4, "bANTICLOCKWISE ARROW ABOVEbCLOCKWISEobLEFTobRIGHTobRING OVERLAYbCLOCKWISEo"),
  (0x20DA, "bANTICLOCKWISEobTHREE DOTS ABOVEbFOURobENCLOSING CIRCLEcSQUAREcDIAMOND"),
  (0x20E0, "cCIRCLE BACKSLASHbLEFT RIGHT ARROW ABOVEbENCLOSING SCREENcKEYCAP"),
  (0x20E4, "cUPWARD POINTING TRIANGLEbREVERSE SOLIDUS OVERLAYbDOUBLE VERTICAL STROKEn"),
  (0x20E7, "bANNUITY SYMBOLbTRIPLE UNDERDOTbWIDE BRIDGE ABOVEbLEFTWARDS ARROW OVERLAY"),
  (0x20EB, "bLONG DOUBLE SOLIDUSnbRIGHTWARDS HARPOON WITH BARB DOWNWARDSbLEFTWARDSq"),
  (0x20EE, "bLEFT ARROW BELOWbRIGHTobASTERISK ABOVE"),
  (0x2100, "aACCOUNT OFaADDRESSED TO THE SUBJECTaDOUBLE-STRUCK CAPITAL CaDEGREE CELSIUS"),
  (0x2104, "aCENTRE LINE SYMBOLaCARE OFaCADA UNAaEULER CONSTANTaSCRUPLEaDEGREE FAHRENHEIT"),
  (0x210A, "aSCRIPT SMALL GbCAPITAL HaBLACK-LETTERoaDOUBLE-STRUCKoaPLANCK CONSTANTcOVER TWO PI"),
  (0x2110, "aSCRIPT CAPITAL IaBLACK-LETTERoaSCRIPT CAPITAL LbSMALLnaL B BAR SYMBOL"),
  (0x2115, "aDOUBLE-STRUCK CAPITAL NaNUMERO SIGNaSOUND RECORDING COPYRIGHTaSCRIPT CAPITAL P"),
  (0x2119, "aDOUBLE-STRUCKocQaSCRIPT CAPITAL RaBLACK-LETTERoaDOUBLE-STRUCKoaPRESCRIPTION TAKE"),
  (0x211F, "aRESPONSEaSERVICE MARKaTELEPHONE SIGNaTRADE MARKnaVERSICLEaDOUBLE-STRUCK CAPITAL Z"),
  (0x2125, "aOUNCE SIGNaOHMnaINVERTEDoaBLACK-LETTER CAPITAL ZaTURNED GREEK SMALL LETTER IOTA"),
  (0x212A, "aKELVIN SIGNaANGSTROMnaSCRIPT CAPITAL BaBLACK-LETTER CAPITAL CaESTIMATED SYMBOL"),
  (0x212F, "aSCRIPT SMALL EbCAPITALncFaTURNEDoaSCRIPT CAPITAL MbSMALL OaALEF SYMBOLaBETnaGIMELn"),
  (0x2138, "aDALETnaINFORMATION SOURCEaROTATED CAPITAL QaFACSIMILE SIGNaDOUBLE-STRUCK SMALL PI"),
  (0x213D, "cGAMMAbCAPITALncPIbN-ARY SUMMATIONaTURNED SANS-SERIF CAPITAL GdLaREVERSEDp"),
  (0x2144, "aTURNED SANS-SERIF CAPITAL YaDOUBLE-STRUCK ITALIC CAPITAL DcSMALLndEdIdJ"),
  (0x214A, "aPROPERTY LINEaTURNED AMPERSANDaPER SIGNaAKTIESELSKABaTURNED SMALL F"),
  (0x214F, "aSYMBOL FOR SAMARITAN SOURCEaVULGAR FRACTION ONE SEVENTHdNINTHdTENTHdTHIRDcTWO THIRDS"),
  (0x2155, "cONE FIFTHcTWO FIFTHScTHREEncFOURncONE SIXTHcFIVE SIXTHScONE EIGHTHcTHREE EIGHTHS"),
  (0x215D, "cFIVEncSEVENnaFRACTION NUMERATOR ONEaROMAN NUMERALncTWOcTHREEcFOURcFIVEcSIXcSEVEN"),
  (0x2167, "cEIGHTcNINEcTENcELEVENcTWELVEcFIFTYcONE HUNDREDcFIVEncONE THOUSAND"),
  (0x2170, "aSMALL ROMAN NUMERAL ONEdTWOdTHREEdFOURdFIVEdSIXdSEVENdEIGHTdNINEdTENdELEVENdTWELVE"),
  (0x217C, "dFIFTYdONE HUNDREDdFIVEndONE THOUSANDaROMAN NUMERAL ONE THOUSAND C DcFIVE THOUSAND"),
  (0x2182, "cTENncREVERSED ONE HUNDREDaLATIN SMALL LETTER REVERSED CaROMAN NUMERAL SIX LATE FORM"),
  (0x2186, "cFIFTY EARLYndTHOUSANDcONE HUNDREDnaVULGAR FRACTION ZERO THIRDSaTURNED DIGIT TWO"),
  (0x218B, "cTHREE"),
  (0x2190, "aLEFTWARDS ARROWaUPWARDSnaRIGHTWARDSnaDOWNWARDSnaLEFT RIGHTnaUP DOWNnaNORTH WESTn"),
  (0x2197, "bEASTnaSOUTHobWESTnaLEFTWARDS ARROW WITH STROKEaRIGHTWARDSpaLEFTWARDS WAVE ARROW"),
  (0x219D, "aRIGHTWARDSoaLEFTWARDS TWO HEADEDnaUPWARDSpaRIGHTWARDSpaDOWNWARDSp"),
  (0x21A2, "aLEFTWARDS ARROW WITH TAILaRIGHTWARDSpaLEFTWARDS ARROW FROM BARaUPWARDSpaRIGHTWARDSp"),
  (0x21A7, "aDOWNWARDSpaUP DOWN ARROW WITH BASEaLEFTWARDS ARROW WITH HOOKaRIGHTWARDSp"),
  (0x21AB, "aLEFTWARDS ARROW WITH LOOPaRIGHTWARDSpaLEFT RIGHT WAVE ARROWcARROW WITH STROKE"),
  (0x21AF, "aDOWNWARDS ZIGZAG ARROWaUPWARDS ARROW WITH TIP LEFTWARDSeRIGHTWARDS"),
  (0x21B2, "aDOWNWARDS ARROW WITH TIP LEFTWARDSeRIGHTWARDSaRIGHTWARDS ARROW WITH CORNER DOWNWARDS"),
  (0x21B5, "aDOWNWARDS ARROW WITH CORNER LEFTWARDSaANTICLOCKWISE TOP SEMICIRCLE ARROWaCLOCKWISEp"),
  (0x21B8, "aNORTH WEST ARROW TO LONG BARaLEFTWARDS ARROW TO BAR OVER RIGHTWARDS ARROW TOn"),
  (0x21BA, "aANTICLOCKWISE OPEN CIRCLE ARROWaCLOCKWISEpaLEFTWARDS HARPOON WITH BARB UPWARDS"),
  (0x21BD, "eDOWNWARDSaUPWARDS HARPOON WITH BARB RIGHTWARDSeLEFTWARDS"),
  (0x21C0, "aRIGHTWARDS HARPOON WITH BARB UPWARDSeDOWNWARDS"),
  (0x21C2, "aDOWNWARDS HARPOON WITH BARB RIGHTWARDSeLEFTWARDS"),
  (0x21C4, "aRIGHTWARDS ARROW OVER LEFTWARDS ARROWaUPWARDS ARROW LEFTWARDS OF DOWNWARDSn"),
  (0x21C6, "aLEFTWARDS ARROW OVER RIGHTWARDSnbPAIRED ARROWSaUPWARDSoaRIGHTWARDSoaDOWNWARDSo"),
  (0x21CB, "aLEFTWARDS HARPOON OVER RIGHTWARDS HARPOONaRIGHTWARDS HARPOON OVER LEFTWARDSn"),
  (0x21CD, "aLEFTWARDS DOUBLE ARROW WITH STROKEaLEFT RIGHTqaRIGHTWARDSqaLEFTWARDS DOUBLE ARROW"),
  (0x21D1, "aUPWARDSoaRIGHTWARDSoaDOWNWARDSoaLEFT RIGHToaUP DOWNoaNORTH WESTobEASToaSOUTHpbWESTo"),
  (0x21DA, "aLEFTWARDS TRIPLEnaRIGHTWARDSoaLEFTWARDS SQUIGGLEnaRIGHTWARDSo"),
  (0x21DE, "aUPWARDS ARROW WITH DOUBLE STROKEaDOWNWARDSqaLEFTWARDS DASHED ARROWaUPWARDSo"),
  (0x21E2, "aRIGHTWARDSoaDOWNWARDSoaLEFTWARDS ARROW TO BARaRIGHTWARDSpaLEFTWARDS WHITE ARROW"),
  (0x21E7, "aUPWARDSoaRIGHTWARDSoaDOWNWARDSoaUPWARDS WHITE ARROW FROM BARdON PEDESTAL"),
  (0x21EC, "fWITH HORIZONTAL BARgVERTICALncDOUBLE ARROWeON PEDESTAL"),
  (0x21F0, "aRIGHTWARDS WHITE ARROW FROM WALLaNORTH WEST ARROW TO CORNERaSOUTH EASTp"),
  (0x21F3, "aUP DOWN WHITE ARROWaRIGHT ARROW WITH SMALL CIRCLE"),
  (0x21F5, "aDOWNWARDS ARROW LEFTWARDS OF UPWARDS ARROWaTHREE RIGHTWARDS ARROWS"),
  (0x21F7, "aLEFTWARDS ARROW WITH VERTICAL STROKEaRIGHTWARDSqaLEFT RIGHTq"),
  (0x21FA, "aLEFTWARDS ARROW WITH DOUBLEoaRIGHTWARDSraLEFT RIGHTraLEFTWARDS OPEN-HEADED ARROW"),
  (0x21FE, "aRIGHTWARDSoaLEFT RIGHToaFOR ALLaCOMPLEMENTaPARTIAL DIFFERENTIALaTHERE EXISTS"),
  (0x2204, "bDOES NOT EXISTaEMPTY SETaINCREMENTaNABLAaELEMENT OFaNOT ANoaSMALLo"),
  (0x220B, "aCONTAINS AS MEMBERaDOES NOT CONTAINoaSMALL CONTAINSoaEND OF PROOFaN-ARY PRODUCT"),
  (0x2210, "bCOPRODUCTbSUMMATIONaMINUS SIGNaMINUS-OR-PLUSnaDOT PLUSaDIVISION SLASHaSET MINUS"),
  (0x2217, "aASTERISK OPERATORaRINGnaBULLETnaSQUARE ROOTaCUBEnaFOURTHnaPROPORTIONAL TOaINFINITY"),
  (0x221F, "aRIGHT ANGLEanaMEASUREDnaSPHERICALnaDIVIDESaDOES NOT DIVIDEaPARALLEL TOaNOTo"),
  (0x2227, "aLOGICAL ANDbORaINTERSECTIONaUNIONaINTEGRALaDOUBLEnaTRIPLEnaCONTOURnaSURFACEnaVOLUMEn"),
  (0x2231, "aCLOCKWISEnbCONTOURnaANTICLOCKWISEoaTHEREFOREaBECAUSEaRATIOaPROPORTIONaDOT MINUS"),
  (0x2239, "aEXCESSaGEOMETRIC PROPORTIONaHOMOTHETICaTILDE OPERATORaREVERSED TILDEaINVERTED LAZY S"),
  (0x223F, "aSINE WAVEaWREATH PRODUCTaNOT TILDEaMINUSnaASYMPTOTICALLY EQUAL TOaNOTp"),
  (0x2245, "aAPPROXIMATELYobBUT NOT ACTUALLYoaNEITHER APPROXIMATELY NORpaALMOSToaNOTp"),
  (0x224A, "aALMOST EQUAL ORoaTRIPLE TILDEaALL EQUAL TOaEQUIVALENTnaGEOMETRICALLYo"),
  (0x224F, "aDIFFERENCE BETWEENaAPPROACHES THE LIMITaGEOMETRICALLY EQUAL TO"),
  (0x2252, "aAPPROXIMATELY EQUAL TO OR THE IMAGE OFaIMAGE OF OR APPROXIMATELY EQUAL TO"),
  (0x2254, "aCOLON EQUALSaEQUALS COLONaRING IN EQUAL TOboaCORRESPONDSnaESTIMATESaEQUIANGULAR TO"),
  (0x225B, "aSTAR EQUALSaDELTA EQUAL TOaEQUAL TO BY DEFINITIONaMEASURED BYaQUESTIONED EQUAL TO"),
  (0x2260, "aNOToaIDENTICALnaNOToaSTRICTLY EQUIVALENTnaLESS-THAN OR EQUALnaGREATER-THANp"),
  (0x2266, "aLESS-THAN OVERoaGREATER-THANpaLESS-THAN BUT NOToaGREATER-THANqaMUCH LESS-THAN"),
  (0x226B, "bGREATER-THANaBETWEENaNOT EQUIVALENT TObLESS-THANbGREATER-THAN"),
  (0x2270, "aNEITHER LESS-THAN NOR EQUAL TObGREATER-THANpaLESS-THAN OR EQUIVALENTnaGREATER-THANp"),
  (0x2274, "aNEITHER LESS-THAN NORobGREATER-THANpaLESS-THAN OR GREATER-THAN"),
  (0x2277, "aGREATER-THAN OR LESS-THANaNEITHER LESS-THAN NOR GREATER-THAN"),
  (0x2279, "bGREATER-THAN NOR LESS-THANaPRECEDESaSUCCEEDSaPRECEDES OR EQUAL TOaSUCCEEDSp"),
  (0x227E, "aPRECEDES OR EQUIVALENTnaSUCCEEDSpaDOES NOT PRECEDEcSUCCEEDaSUBSET OFaSUPERSETn"),
  (0x2284, "aNOT A SUBSETncSUPERSETnaSUBSET OF OR EQUAL TOaSUPERSETqaNEITHER A SUBSET OF NORo"),
  (0x2289, "cSUPERSETqaSUBSET OF WITH NOToaSUPERSETraMULTISETbMULTIPLICATIONbUNION"),
  (0x228F, "aSQUARE IMAGE OFbORIGINALnbIMAGE OF OR EQUAL TObORIGINALqbCAPbCUPaCIRCLED PLUSbMINUS"),
  (0x2297, "bTIMESbDIVISION SLASHbDOT OPERATORbRINGnbASTERISKnbEQUALSbDASHaSQUARED PLUSbMINUS"),
  (0x22A0, "bTIMESbDOT OPERATORaRIGHT TACKaLEFTnaDOWNnaUPnaASSERTIONaMODELSaTRUEaFORCES"),
  (0x22AA, "aTRIPLE VERTICAL BAR RIGHT TURNSTILEaDOUBLE VERTICAL BAR DOUBLEoaDOES NOT PROVE"),
  (0x22AD, "aNOT TRUEaDOES NOT FORCEaNEGATED DOUBLE VERTICAL BAR DOUBLE RIGHT TURNSTILE"),
  (0x22B0, "aPRECEDES UNDER RELATIONaSUCCEEDSoaNORMAL SUBGROUP OFaCONTAINS AS NORMAL SUBGROUP"),
  (0x22B4, "aNORMAL SUBGROUP OF OR EQUAL TOaCONTAINS AS NORMAL SUBGROUPpaORIGINAL OFaIMAGEn"),
  (0x22B8, "aMULTIMAPaHERMITIAN CONJUGATE MATRIXaINTERCALATEaXORaNANDaNORaRIGHT ANGLE WITH ARC"),
  (0x22BF, "bTRIANGLEaN-ARY LOGICAL ANDcORbINTERSECTIONbUNIONaDIAMOND OPERATORaDOTnaSTARn"),
  (0x22C7, "aDIVISION TIMESaBOWTIEaLEFT NORMAL FACTOR SEMIDIRECT PRODUCTaRIGHTqaLEFToaRIGHTo"),
  (0x22CD, "aREVERSED TILDE EQUALSaCURLY LOGICAL ORcANDaDOUBLE SUBSETbSUPERSETbINTERSECTIONbUNION"),
  (0x22D4, "aPITCHFORKaEQUAL AND PARALLEL TOaLESS-THAN WITH DOTaGREATER-THANoaVERY MUCH LESS-THAN"),
  (0x22D9, "cGREATER-THANaLESS-THAN EQUAL TO ORnaGREATER-THAN EQUAL TO OR LESS-THANaq"),
  (0x22DD, "dGREATER-THANdPRECEDESdSUCCEEDSaDOES NOT PRECEDE OR EQUALcSUCCEEDo"),
  (0x22E2, "aNOT SQUARE IMAGE OF OR EQUAL TOcORIGINALqaSQUARE IMAGE OF OR NOTobORIGINALr"),
  (0x22E6, "aLESS-THAN BUT NOT EQUIVALENTnaGREATER-THANqaPRECEDESqaSUCCEEDSq"),
  (0x22EA, "aNOT NORMAL SUBGROUP OFaDOES NOT CONTAIN AS NORMAL SUBGROUP"),
  (0x22EC, "aNOT NORMAL SUBGROUP OF OR EQUAL TOaDOES NOT CONTAIN AS NORMAL SUBGROUP OR EQUAL"),
  (0x22EE, "aVERTICAL ELLIPSISaMIDLINE HORIZONTALnaUP RIGHT DIAGONALnaDOWNp"),
  (0x22F2, "aELEMENT OF WITH LONG HORIZONTAL STROKEdVERTICAL BAR AT END OFoaSMALLw"),
  (0x22F5, "aELEMENT OF WITH DOT ABOVEdOVERBARaSMALLqaELEMENT OF WITH UNDERBAR"),
  (0x22F9, "dTWO HORIZONTAL STROKESaCONTAINS WITH LONG HORIZONTAL STROKEcVERTICAL BAR AT END OFo"),
  (0x22FC, "aSMALLvaCONTAINS WITH OVERBARaSMALLpaZ NOTATION BAG MEMBERSHIPaDIAMETER SIGN"),
  (0x2301, "aELECTRIC ARROWaHOUSEaUP ARROWHEADaDOWNnaPROJECTIVEaPERSPECTIVEaWAVY LINE"),
  (0x2308, "aLEFT CEILINGaRIGHTnaLEFT FLOORaRIGHTnaBOTTOM RIGHT CROPbLEFTnaTOP RIGHTnbLEFTn"),
  (0x2310, "aREVERSED NOT SIGNaSQUARE LOZENGEaARCaSEGMENTaSECTORaTELEPHONE RECORDER"),
  (0x2316, "aPOSITION INDICATORaVIEWDATA SQUAREaPLACE OF INTEREST SIGNaTURNED NOTnaWATCH"),
  (0x231B, "aHOURGLASSaTOP LEFT CORNERbRIGHTnaBOTTOM LEFTnbRIGHTnaTOP HALF INTEGRALaBOTTOMoaFROWN"),
  (0x2323, "aSMILEaUP ARROWHEAD BETWEEN TWO HORIZONTAL BARSaOPTION KEYaERASE TO THE RIGHT"),
  (0x2327, "aX IN A RECTANGLE BOXaKEYBOARDaLEFT-POINTING ANGLE BRACKETaRIGHT-POINTINGo"),
  (0x232B, "aERASE TO THE LEFTaBENZENE RINGaCYLINDRICITYaALL AROUND-PROFILEaSYMMETRYaTOTAL RUNOUT"),
  (0x2331, "aDIMENSION ORIGINaCONICAL TAPERaSLOPEaCOUNTERBOREaCOUNTERSINK"),
  (0x2336, "aAPL FUNCTIONAL SYMBOL I-BEAMdSQUISH QUADdQUAD EQUALeDIVIDEeDIAMONDeJOTeCIRCLE"),
  (0x233D, "dCIRCLE STILEeJOTdSLASH BARdBACKSLASHndQUAD SLASHeBACKSLASHeLESS-THANeGREATER-THAN"),
  (0x2345, "dLEFTWARDS VANEdRIGHTWARDSndQUAD LEFTWARDS ARROWeRIGHTWARDSndCIRCLE BACKSLASH"),
  (0x234A, "dDOWN TACK UNDERBARdDELTA STILEdQUAD DOWN CARETeDELTAdDOWN TACK JOTdUPWARDS VANE"),
  (0x2350, "dQUAD UPWARDS ARROWdUP TACK OVERBARdDEL STILEdQUAD UP CARETeDELdUP TACK JOT"),
  (0x2356, "dDOWNWARDS VANEdQUAD DOWNWARDS ARROWdQUOTE UNDERBARdDELTAndDIAMONDndJOTndCIRCLEn"),
  (0x235D, "dUP SHOE JOTdQUOTE QUADdCIRCLE STARdQUAD COLONdUP TACK DIAERESISdDELndSTARndJOTn"),
  (0x2365, "dCIRCLEndDOWN SHOE STILEdLEFTodTILDE DIAERESISdGREATER-THANndCOMMA BARdDEL TILDE"),
  (0x236C, "dZILDEdSTILE TILDEdSEMICOLON UNDERBARdQUAD NOT EQUALeQUESTIONdDOWN CARET TILDEdUPo"),
  (0x2373, "dIOTAdRHOdOMEGAdALPHA UNDERBARdEPSILONndIOTAndOMEGAndALPHAaNOT CHECK MARK"),
  (0x237C, "aRIGHT ANGLE WITH DOWNWARDS ZIGZAG ARROWaSHOULDERED OPEN BOXaBELL SYMBOL"),
  (0x237F, "aVERTICAL LINE WITH MIDDLE DOTaINSERTION SYMBOLaCONTINUOUS UNDERLINEnaDISCONTINUOUSo"),
  (0x2383, "aEMPHASISnaCOMPOSITIONnaWHITE SQUARE WITH CENTRE VERTICAL LINEaENTER SYMBOL"),
  (0x2387, "aALTERNATIVE KEYnaHELMnaCIRCLED HORIZONTAL BAR WITH NOTCHbTRIANGLE DOWN"),
  (0x238B, "aBROKEN CIRCLE WITH NORTHWEST ARROWaUNDO SYMBOLaMONOSTABLEnaHYSTERESISn"),
  (0x238F, "aOPEN-CIRCUIT-OUTPUT H-TYPEnbL-TYPEnaPASSIVE-PULL-DOWN-OUTPUTn"),
  (0x2392, "aPASSIVE-PULL-UP-OUTPUTnaDIRECT CURRENT SYMBOL FORM TWOaSOFTWARE-FUNCTION SYMBOL"),
  (0x2395, "aAPL FUNCTIONAL SYMBOL QUADaDECIMAL SEPARATOR KEY SYMBOLaPREVIOUS PAGEaNEXTn"),
  (0x2399, "aPRINT SCREEN SYMBOLaCLEARoaLEFT PARENTHESIS UPPER HOOKcEXTENSIONcLOWER HOOK"),
  (0x239E, "aRIGHT PARENTHESIS UPPERncEXTENSIONcLOWER HOOKaLEFT SQUARE BRACKET UPPER CORNER"),
  (0x23A2, "dEXTENSIONdLOWER CORNERaRIGHT SQUARE BRACKET UPPERndEXTENSIONdLOWER CORNER"),
  (0x23A7, "aLEFT CURLY BRACKET UPPER HOOKdMIDDLE PIECEdLOWER HOOKaCURLY BRACKET EXTENSION"),
  (0x23AB, "aRIGHT CURLY BRACKET UPPER HOOKdMIDDLE PIECEdLOWER HOOKaINTEGRAL EXTENSION"),
  (0x23AF, "aHORIZONTAL LINEnaUPPER LEFT OR LOWER RIGHT CURLY BRACKET SECTION"),
  (0x23B1, "bRIGHT OR LOWER LEFTpaSUMMATION TOPbBOTTOMaTOP SQUARE BRACKETaBOTTOMo"),
  (0x23B6, "dOVER TOP SQUARE BRACKETaRADICAL SYMBOL BOTTOMaLEFT VERTICAL BOX LINEaRIGHTp"),
  (0x23BA, "aHORIZONTAL SCAN LINE-1cLINE-3cLINE-7cLINE-9"),
  (0x23BE, "aDENTISTRY SYMBOL LIGHT VERTICAL AND TOP RIGHTfBOTTOMneWITH CIRCLE"),
  (0x23C1, "dDOWN AND HORIZONTALodUPqdVERTICAL WITH TRIANGLEdDOWN AND HORIZONTALodUPq"),
  (0x23C6, "dVERTICAL AND WAVEdDOWN AND HORIZONTAL WITHndUPqdDOWN AND HORIZONTALdUPo"),
  (0x23CB, "dVERTICAL AND TOP LEFTfBOTTOMnaSQUARE FOOTaRETURN SYMBOLaEJECTn"),
  (0x23D0, "aVERTICAL LINE EXTENSIONaMETRICAL BREVEbLONG OVER SHORTbSHORT OVER LONG"),
  (0x23D4, "bLONG OVER TWO SHORTSbTWO SHORTS OVER LONGdJOINEDbTRISEMEbTETRASEMEbPENTASEME"),
  (0x23DA, "aEARTH GROUNDaFUSEaTOP PARENTHESISaBOTTOMnaTOP CURLY BRACKETaBOTTOMo"),
  (0x23E0, "aTOP TORTOISE SHELLnaBOTTOMpaWHITE TRAPEZIUMaBENZENE RING WITH CIRCLEaSTRAIGHTNESS"),
  (0x23E5, "aFLATNESSaAC CURRENTaELECTRICAL INTERSECTIONaDECIMAL EXPONENT SYMBOL"),
  (0x23E9, "aBLACK RIGHT-POINTING DOUBLE TRIANGLEbLEFT-POINTINGobUP-POINTINGobDOWN-POINTINGo"),
  (0x23ED, "bRIGHT-POINTING DOUBLE TRIANGLE WITH VERTICAL BARbLEFT-POINTINGr"),
  (0x23EF, "bRIGHT-POINTING TRIANGLE WITH DOUBLEoaALARM CLOCKaSTOPWATCHaTIMER CLOCK"),
  (0x23F3, "aHOURGLASS WITH FLOWING SANDaBLACK MEDIUM LEFT-POINTING TRIANGLEcRIGHT-POINTINGn"),
  (0x23F6, "cUP-POINTINGncDOWN-POINTINGnaDOUBLE VERTICAL BARaBLACK SQUARE FOR STOP"),
  (0x23FA, "bCIRCLE FOR RECORDaPOWER SYMBOLbON-OFFnbONnbSLEEPnaOBSERVER EYEnaSYMBOL FOR NULL"),
  (0x2401, "cSTART OF HEADINGeTEXTcENDoeTRANSMISSIONcENQUIRYcACKNOWLEDGEcBELLcBACKSPACE"),
  (0x2409, "cHORIZONTAL TABULATIONcLINE FEEDcVERTICAL TABULATIONcFORM FEEDcCARRIAGE RETURN"),
  (0x240E, "cSHIFT OUTdINcDATA LINK ESCAPEcDEVICE CONTROL ONEeTWOeTHREEeFOURcNEGATIVE ACKNOWLEDGE"),
  (0x2416, "cSYNCHRONOUS IDLEcEND OF TRANSMISSION BLOCKcCANCELcEND OF MEDIUMcSUBSTITUTEcESCAPE"),
  (0x241C, "cFILE SEPARATORcGROUPncRECORDncUNITncSPACEcDELETEaBLANK SYMBOLaOPEN BOX"),
  (0x2424, "aSYMBOL FOR NEWLINEcDELETE FORM TWOcSUBSTITUTEo"),
  (0x2440, "aOCR HOOKbCHAIRbFORKbINVERTEDnbBELT BUCKLEbBOW TIEbBRANCH BANK IDENTIFICATION"),
  (0x2447, "bAMOUNT OF CHECKbDASHbCUSTOMER ACCOUNT NUMBERbDOUBLE BACKSLASH"),
  (0x2460, "aCIRCLED DIGIT ONEcTWOcTHREEcFOURcFIVEcSIXcSEVENcEIGHTcNINEbNUMBER TENcELEVENcTWELVE"),
  (0x246C, "cTHIRTEENcFOURTEENcFIFTEENcSIXTEENcSEVENTEENcEIGHTEENcNINETEENcTWENTY"),
  (0x2474, "aPARENTHESIZED DIGIT ONEcTWOcTHREEcFOURcFIVEcSIXcSEVENcEIGHTcNINEbNUMBER TENcELEVEN"),
  (0x247F, "cTWELVEcTHIRTEENcFOURTEENcFIFTEENcSIXTEENcSEVENTEENcEIGHTEENcNINETEENcTWENTY"),
  (0x2488, "aDIGIT ONE FULL STOPbTWOobTHREEobFOURobFIVEobSIXobSEVENobEIGHTobNINEoaNUMBER TENo"),
  (0x2492, "bELEVENobTWELVEobTHIRTEENobFOURTEENobFIFTEENobSIXTEENobSEVENTEENobEIGHTEENobNINETEENo"),
  (0x249B, "bTWENTYoaPARENTHESIZED LATIN SMALL LETTER AeBeCeDeEeFeGeHeIeJeKeLeMeNeOePeQeReSeTeUeV"),
  (0x24B2, "eWeXeYeZaCIRCLED LATIN CAPITAL LETTER AeBeCeDeEeFeGeHeIeJeKeLeMeNeOePeQeReSeTeUeVeWeX"),
  (0x24CE, "eYeZcSMALL LETTER AeBeCeDeEeFeGeHeIeJeKeLeMeNeOePeQeReSeTeUeVeWeXeYeZbDIGIT ZERO"),
  (0x24EB, "aNEGATIVE CIRCLED NUMBER ELEVENdTWELVEdTHIRTEENdFOURTEENdFIFTEENdSIXTEENdSEVENTEEN"),
  (0x24F2, "dEIGHTEENdNINETEENdTWENTYaDOUBLE CIRCLED DIGIT ONEdTWOdTHREEdFOURdFIVEdSIXdSEVEN"),
  (0x24FC, "dEIGHTdNINEcNUMBER TENaNEGATIVE CIRCLED DIGIT ZEROaBOX DRAWINGS LIGHT HORIZONTAL"),
  (0x2501, "cHEAVYncLIGHT VERTICALcHEAVYncLIGHT TRIPLE DASH HORIZONTALcHEAVYp"),
  (0x2506, "cLIGHT TRIPLE DASH VERTICALcHEAVYpcLIGHT QUADRUPLE DASH HORIZONTALcHEAVYp"),
  (0x250A, "cLIGHT QUADRUPLE DASH VERTICALcHEAVYpcLIGHT DOWN AND RIGHTcDOWN LIGHT AND RIGHT HEAVY"),
  (0x250E, "dHEAVY AND RIGHT LIGHTcHEAVY DOWN AND RIGHTcLIGHT DOWN AND LEFT"),
  (0x2511, "cDOWN LIGHT AND LEFT HEAVYdHEAVY AND LEFT LIGHTcHEAVY DOWN AND LEFT"),
  (0x2514, "cLIGHT UP AND RIGHTcUP LIGHT AND RIGHT HEAVYdHEAVY AND RIGHT LIGHTcHEAVY UP AND RIGHT"),
  (0x2518, "cLIGHT UP AND LEFTcUP LIGHT AND LEFT HEAVYdHEAVY AND LEFT LIGHTcHEAVY UP AND LEFT"),
  (0x251C, "cLIGHT VERTICAL AND RIGHTcVERTICAL LIGHT AND RIGHT HEAVY"),
  (0x251E, "cUP HEAVY AND RIGHT DOWN LIGHTcDOWN HEAVY AND RIGHT UPncVERTICAL HEAVY AND RIGHTn"),
  (0x2521, "cDOWN LIGHT AND RIGHT UP HEAVYcUP LIGHT AND RIGHT DOWNncHEAVY VERTICAL AND RIGHT"),
  (0x2524, "cLIGHT VERTICAL AND LEFTcVERTICAL LIGHT AND LEFT HEAVYcUP HEAVY AND LEFT DOWN LIGHT"),
  (0x2527, "cDOWN HEAVY AND LEFT UPncVERTICAL HEAVY AND LEFTncDOWN LIGHT AND LEFT UP HEAVY"),
  (0x252A, "cUP LIGHT AND LEFT DOWNncHEAVY VERTICAL AND LEFTcLIGHT DOWN AND HORIZONTAL"),
  (0x252D, "cLEFT HEAVY AND RIGHT DOWN LIGHTcRIGHT HEAVY AND LEFTo"),
  (0x252F, "cDOWN LIGHT AND HORIZONTAL HEAVYdHEAVY AND HORIZONTAL LIGHT"),
  (0x2531, "cRIGHT LIGHT AND LEFT DOWN HEAVYcLEFT LIGHT AND RIGHTocHEAVY DOWN AND HORIZONTAL"),
  (0x2534, "cLIGHT UPocLEFT HEAVY AND RIGHT UP LIGHTcRIGHT HEAVY AND LEFTo"),
  (0x2537, "cUP LIGHT AND HORIZONTAL HEAVYdHEAVY AND HORIZONTAL LIGHT"),
  (0x2539, "cRIGHT LIGHT AND LEFT UP HEAVYcLEFT LIGHT AND RIGHTocHEAVY UP AND HORIZONTAL"),
  (0x253C, "cLIGHT VERTICALocLEFT HEAVY AND RIGHT VERTICAL LIGHTcRIGHT HEAVY AND LEFTo"),
  (0x253F, "cVERTICAL LIGHT AND HORIZONTAL HEAVYcUP HEAVY AND DOWN HORIZONTAL LIGHT"),
  (0x2541, "cDOWN HEAVY AND UPocVERTICAL HEAVY ANDocLEFT UP HEAVY AND RIGHT DOWNn"),
  (0x2544, "cRIGHT UP HEAVY AND LEFTocLEFT DOWN HEAVY AND RIGHT UPncRIGHT DOWN HEAVY AND LEFTo"),
  (0x2547, "cDOWN LIGHT AND UP HORIZONTAL HEAVYcUP LIGHT AND DOWNocRIGHT LIGHT AND LEFT VERTICALn"),
  (0x254A, "cLEFT LIGHT AND RIGHTocHEAVY VERTICAL AND HORIZONTALcLIGHT DOUBLE DASHncHEAVYp"),
  (0x254E, "cLIGHT DOUBLE DASH VERTICALcHEAVYpcDOUBLE HORIZONTALdVERTICAL"),
  (0x2552, "cDOWN SINGLE AND RIGHT DOUBLEdDOUBLE AND RIGHT SINGLEcDOUBLE DOWN AND RIGHT"),
  (0x2555, "cDOWN SINGLE AND LEFT DOUBLEdDOUBLE AND LEFT SINGLEcDOUBLE DOWN AND LEFT"),
  (0x2558, "cUP SINGLE AND RIGHT DOUBLEdDOUBLE AND RIGHT SINGLEcDOUBLE UP AND RIGHT"),
  (0x255B, "cUP SINGLE AND LEFT DOUBLEdDOUBLE AND LEFT SINGLEcDOUBLE UP AND LEFT"),
  (0x255E, "cVERTICAL SINGLE AND RIGHT DOUBLEdDOUBLE AND RIGHT SINGLEcDOUBLE VERTICAL AND RIGHT"),
  (0x2561, "cVERTICAL SINGLE AND LEFT DOUBLEdDOUBLE AND LEFT SINGLEcDOUBLE VERTICAL AND LEFT"),
  (0x2564, "cDOWN SINGLE AND HORIZONTAL DOUBLEdDOUBLE AND HORIZONTAL SINGLE"),
  (0x2566, "cDOUBLE DOWN AND HORIZONTALcUP SINGLE AND HORIZONTAL DOUBLE"),
  (0x2568, "dDOUBLE AND HORIZONTAL SINGLEcDOUBLE UP AND HORIZONTAL"),
  (0x256A, "cVERTICAL SINGLE AND HORIZONTAL DOUBLEdDOUBLE AND HORIZONTAL SINGLE"),
  (0x256C, "cDOUBLE VERTICAL AND HORIZONTALcLIGHT ARC DOWN AND RIGHTgLEFTeUPogRIGHT"),
  (0x2571, "dDIAGONAL UPPER RIGHT TO LOWER LEFTfLEFT TO LOWER RIGHTeCROSSdLEFTdUPdRIGHTdDOWN"),
  (0x2578, "cHEAVY LEFTdUPdRIGHTdDOWNcLIGHT LEFT AND HEAVY RIGHTdUP AND HEAVY DOWN"),
  (0x257E, "cHEAVY LEFT AND LIGHT RIGHTdUP AND LIGHT DOWNaUPPER HALF BLOCKaLOWER ONE EIGHTHn"),
  (0x2582, "cQUARTERnbTHREE EIGHTHSnbHALFnbFIVE EIGHTHSnbTHREE QUARTERSnbSEVEN EIGHTHSnaFULLn"),
  (0x2589, "aLEFT SEVEN EIGHTHSnbTHREE QUARTERSnbFIVE EIGHTHSnbHALFnbTHREE EIGHTHSnbONE QUARTERn"),
  (0x258F, "cEIGHTHnaRIGHT HALFnaLIGHT SHADEaMEDIUMnaDARKnaUPPER ONE EIGHTH BLOCKaRIGHTp"),
  (0x2596, "aQUADRANT LOWER LEFTcRIGHTbUPPER LEFTdAND LOWER LEFT AND LOWER RIGHTfn"),
  (0x259B, "eUPPER RIGHT AND LOWER LEFTiRIGHTcndAND LOWER LEFTgAND LOWER RIGHTaBLACK SQUARE"),
  (0x25A1, "aWHITEncWITH ROUNDED CORNERScCONTAINING BLACK SMALL SQUARE"),
  (0x25A4, "aSQUARE WITH HORIZONTAL FILLcVERTICALncORTHOGONAL CROSSHATCHn"),
  (0x25A7, "cUPPER LEFT TO LOWER RIGHTndRIGHT TO LOWER LEFTncDIAGONAL CROSSHATCHn"),
  (0x25AA, "aBLACK SMALL SQUAREaWHITEoaBLACK RECTANGLEaWHITEnaBLACK VERTICALnaWHITEo"),
  (0x25B0, "aBLACK PARALLELOGRAMaWHITEnaBLACK UP-POINTING TRIANGLEaWHITEo"),
  (0x25B4, "aBLACK UP-POINTING SMALLnaWHITEpaBLACK RIGHT-POINTINGnaWHITEo"),
  (0x25B8, "aBLACK RIGHT-POINTING SMALLnaWHITEpaBLACK RIGHT-POINTING POINTERaWHITEo"),
  (0x25BC, "aBLACK DOWN-POINTING TRIANGLEaWHITEoaBLACK DOWN-POINTING SMALLnaWHITEp"),
  (0x25C0, "aBLACK LEFT-POINTINGnaWHITEoaBLACK LEFT-POINTING SMALLnaWHITEp"),
  (0x25C4, "aBLACK LEFT-POINTING POINTERaWHITEoaBLACK DIAMONDaWHITEn"),
  (0x25C8, "cCONTAINING BLACK SMALL DIAMONDaFISHEYEaLOZENGEaWHITE CIRCLEaDOTTEDn"),
  (0x25CD, "aCIRCLE WITH VERTICAL FILLaBULLSEYEaBLACK CIRCLEaCIRCLE WITH LEFT HALF BLACKcRIGHTo"),
  (0x25D2, "cLOWERocUPPERodRIGHT QUADRANTncALL BUT UPPER LEFToaLEFT HALF BLACK CIRCLEaRIGHTp"),
  (0x25D8, "aINVERSE BULLETbWHITE CIRCLEaUPPER HALFpaLOWERqaUPPER LEFT QUADRANT CIRCULAR ARC"),
  (0x25DD, "bRIGHTpaLOWERqbLEFTpaUPPER HALF CIRCLEaLOWERoaBLACK LOWER RIGHT TRIANGLEcLEFTnbUPPERo"),
  (0x25E5, "cRIGHTnaWHITE BULLETaSQUARE WITH LEFT HALF BLACKcRIGHTocUPPER LEFT DIAGONALo"),
  (0x25EA, "cLOWER RIGHTpaWHITE SQUARE WITH VERTICAL BISECTING LINEbUP-POINTING TRIANGLE WITH DOT"),
  (0x25ED, "aUP-POINTING TRIANGLE WITH LEFT HALF BLACKdRIGHToaLARGE CIRCLE"),
  (0x25F0, "aWHITE SQUARE WITH UPPER LEFT QUADRANTdLOWERoeRIGHTndUPPERobCIRCLE WITH UPPER LEFTn"),
  (0x25F5, "dLOWERoeRIGHTndUPPERoaUPPER LEFT TRIANGLEbRIGHTnaLOWER LEFTnaWHITE MEDIUM SQUARE"),
  (0x25FC, "aBLACKoaWHITE MEDIUM SMALLnaBLACKpaLOWER RIGHT TRIANGLEaBLACK SUN WITH RAYSaCLOUD"),
  (0x2602, "aUMBRELLAaSNOWMANaCOMETaBLACK STARaWHITEnaLIGHTNINGaTHUNDERSTORMaSUNaASCENDING NODE"),
  (0x260B, "aDESCENDINGnaCONJUNCTIONaOPPOSITIONaBLACK TELEPHONEaWHITEnaBALLOT BOXcWITH CHECKdX"),
  (0x2613, "aSALTIREaUMBRELLA WITH RAIN DROPSaHOT BEVERAGEaWHITE SHOGI PIECEaBLACKoaSHAMROCK"),
  (0x2619, "aREVERSED ROTATED FLORAL HEART BULLETaBLACK LEFT POINTING INDEXbRIGHToaWHITE LEFTo"),
  (0x261D, "bUPobRIGHTobDOWNoaSKULL AND CROSSBONESaCAUTION SIGNaRADIOACTIVEnaBIOHAZARDnaCADUCEUS"),
  (0x2625, "aANKHaORTHODOX CROSSaCHI RHOaCROSS OF LORRAINEcJERUSALEMaSTAR AND CRESCENT"),
  (0x262B, "aFARSI SYMBOLaADI SHAKTIaHAMMER AND SICKLEaPEACE SYMBOLaYIN YANGaTRIGRAM FOR HEAVEN"),
  (0x2631, "cLAKEcFIREcTHUNDERcWINDcWATERcMOUNTAINcEARTHaWHEEL OF DHARMAaWHITE FROWNING FACE"),
  (0x263A, "bSMILINGnaBLACKoaWHITE SUN WITH RAYSaFIRST QUARTER MOONaLASToaMERCURYaFEMALE SIGN"),
  (0x2641, "aEARTHaMALE SIGNaJUPITERaSATURNaURANUSaNEPTUNEaPLUTOaARIESaTAURUSaGEMINIaCANCERaLEO"),
  (0x264D, "aVIRGOaLIBRAaSCORPIUSaSAGITTARIUSaCAPRICORNaAQUARIUSaPISCESaWHITE CHESS KINGcQUEEN"),
  (0x2656, "cROOKcBISHOPcKNIGHTcPAWNaBLACK CHESS KINGcQUEENcROOKcBISHOPcKNIGHTcPAWNbSPADE SUIT"),
  (0x2661, "aWHITE HEARTnbDIAMONDnaBLACK CLUBnaWHITE SPADEnaBLACK HEARTnbDIAMONDnaWHITE CLUBn"),
  (0x2668, "aHOT SPRINGSaQUARTER NOTEaEIGHTHnaBEAMED EIGHTH NOTESbSIXTEENTHnaMUSIC FLAT SIGN"),
  (0x266E, "bNATURALnbSHARPnaWEST SYRIAC CROSSaEASToaUNIVERSAL RECYCLING SYMBOL"),
  (0x2673, "aRECYCLING SYMBOL FOR TYPE-1 PLASTICSdTYPE-2ndTYPE-3ndTYPE-4ndTYPE-5ndTYPE-6ndTYPE-7n"),
  (0x267A, "dGENERIC MATERIALSaBLACK UNIVERSAL RECYCLING SYMBOLaRECYCLED PAPERn"),
  (0x267D, "aPARTIALLY-RECYCLEDoaPERMANENT PAPER SIGNaWHEELCHAIR SYMBOLaDIE FACE-1bFACE-2bFACE-3"),
  (0x2683, "bFACE-4bFACE-5bFACE-6aWHITE CIRCLE WITH DOT RIGHTdTWO DOTS"),
  (0x2688, "aBLACK CIRCLE WITH WHITE DOT RIGHTdTWO WHITE DOTSaMONOGRAM FOR YANGcYIN"),
  (0x268C, "aDIGRAM FOR GREATER YANGcLESSER YINdYANGcGREATER YINaWHITE FLAGaBLACKn"),
  (0x2692, "aHAMMER AND PICKaANCHORaCROSSED SWORDSaSTAFF OF AESCULAPIUSaSCALESaALEMBICaFLOWER"),
  (0x2699, "aGEARaSTAFF OF HERMESaATOM SYMBOLaFLEUR-DE-LISaOUTLINED WHITE STAR"),
  (0x269E, "aTHREE LINES CONVERGING RIGHTdLEFTaWARNING SIGNaHIGH VOLTAGEnaDOUBLED FEMALEnbMALEn"),
  (0x26A4, "aINTERLOCKED FEMALE ANDoaMALE AND FEMALEnbWITH STROKEndAND MALE AND FEMALEn"),
  (0x26A8, "aVERTICAL MALE WITH STROKEnaHORIZONTALqaMEDIUM WHITE CIRCLEbBLACKnbSMALL WHITEn"),
  (0x26AD, "aMARRIAGE SYMBOLaDIVORCEnaUNMARRIED PARTNERSHIPnaCOFFINaFUNERAL URNaNEUTERaCERES"),
  (0x26B4, "aPALLASaJUNOaVESTAaCHIRONaBLACK MOON LILITHaSEXTILEaSEMISEXTILEaQUINCUNX"),
  (0x26BC, "aSESQUIQUADRATEaSOCCER BALLaBASEBALLaSQUARED KEYaWHITE DRAUGHTS MANcKING"),
  (0x26C2, "aBLACK DRAUGHTS MANcKINGaSNOWMAN WITHOUT SNOWaSUN BEHIND CLOUDaRAINaBLACK SNOWMAN"),
  (0x26C8, "aTHUNDER CLOUD AND RAINaTURNED WHITE SHOGI PIECEbBLACKoaWHITE DIAMOND IN SQUARE"),
  (0x26CC, "aCROSSING LANESaDISABLED CARaOPHIUCHUSaPICKaCAR SLIDINGaHELMET WITH WHITE CROSS"),
  (0x26D2, "aCIRCLED CROSSING LANESaCHAINSaNO ENTRYaALTERNATE ONE-WAY LEFT WAY TRAFFIC"),
  (0x26D6, "aBLACK TWO-WAYpaWHITEqaBLACK LEFT LANE MERGEaWHITEpaDRIVE SLOW SIGN"),
  (0x26DB, "aHEAVY WHITE DOWN-POINTING TRIANGLEaLEFT CLOSED ENTRYaSQUARED SALTIRE"),
  (0x26DE, "aFALLING DIAGONAL IN WHITE CIRCLE IN BLACK SQUAREaBLACK TRUCKaRESTRICTED LEFT ENTRY-1"),
  (0x26E1, "cENTRY-2aASTRONOMICAL SYMBOL FOR URANUSaHEAVY CIRCLE WITH STROKE AND TWO DOTS ABOVE"),
  (0x26E4, "aPENTAGRAMaRIGHT-HANDED INTERLACEDnaLEFT-HANDEDoaINVERTEDnaBLACK CROSS ON SHIELD"),
  (0x26E9, "aSHINTO SHRINEaCHURCHaCASTLEaHISTORIC SITEaGEAR WITHOUT HUBbWITH HANDLES"),
  (0x26EF, "aMAP SYMBOL FOR LIGHTHOUSEaMOUNTAINaUMBRELLA ON GROUNDaFOUNTAINaFLAG IN HOLEaFERRY"),
  (0x26F5, "aSAILBOATaSQUARE FOUR CORNERSaSKIERaICE SKATEaPERSON WITH BALLaTENT"),
  (0x26FB, "aJAPANESE BANK SYMBOLaHEADSTONE GRAVEYARDnaFUEL PUMPaCUP ON BLACK SQUARE"),
  (0x26FF, "aWHITE FLAG WITH HORIZONTAL MIDDLE BLACK STRIPEaBLACK SAFETY SCISSORSaUPPER BLADEn"),
  (0x2702, "aBLACKnaLOWER BLADEnaWHITEnbHEAVY CHECK MARKaTELEPHONE LOCATION SIGNaTAPE DRIVE"),
  (0x2708, "aAIRPLANEaENVELOPEaRAISED FISTbHANDaVICTORYnaWRITINGnaLOWER RIGHT PENCILan"),
  (0x2710, "aUPPER RIGHTnaWHITE NIBaBLACKnaCHECK MARKaHEAVYoaMULTIPLICATION XaHEAVYoaBALLOTn"),
  (0x2718, "aHEAVYoaOUTLINED GREEK CROSSaHEAVYoaOPEN CENTREnaHEAVYpaLATINnaSHADOWED WHITEo"),
  (0x271F, "aOUTLINEDoaMALTESEnaSTAR OF DAVIDaFOUR TEARDROP-SPOKED ASTERISKbBALLOON-SPOKEDn"),
  (0x2724, "aHEAVYpaFOUR CLUB-SPOKEDnaBLACK FOUR POINTED STARaWHITEpaSPARKLES"),
  (0x2729, "aSTRESS OUTLINED WHITE STARaCIRCLEDoaOPEN CENTRE BLACKnaBLACK CENTRE WHITEn"),
  (0x272D, "aOUTLINED BLACKnaHEAVYpaPINWHEELnaSHADOWED WHITEnaHEAVY ASTERISKaOPEN CENTREn"),
  (0x2733, "aEIGHT SPOKEDnbPOINTED BLACK STARcPINWHEELnaSIX POINTED BLACKn"),
  (0x2737, "aEIGHT POINTED RECTILINEARoaHEAVYraTWELVE POINTEDoaSIXTEEN POINTED ASTERISK"),
  (0x273B, "aTEARDROP-SPOKEDnaOPEN CENTREoaHEAVYoaSIX PETALLED BLACK AND WHITE FLORETTEaBLACKn"),
  (0x2740, "aWHITEnaEIGHT PETALLED OUTLINED BLACKnaCIRCLED OPEN CENTRE EIGHT POINTED STAR"),
  (0x2743, "aHEAVY TEARDROP-SPOKED PINWHEEL ASTERISKaSNOWFLAKEaTIGHT TRIFOLIATEnaHEAVY CHEVRONn"),
  (0x2747, "aSPARKLEaHEAVYnaBALLOON-SPOKED ASTERISKaEIGHT TEARDROP-SPOKED PROPELLERnaHEAVYq"),
  (0x274C, "aCROSS MARKaSHADOWED WHITE CIRCLEaNEGATIVE SQUARED CROSS MARK"),
  (0x274F, "aLOWER RIGHT DROP-SHADOWED WHITE SQUAREaUPPERqaLOWER RIGHT SHADOWEDoaUPPERq"),
  (0x2753, "aBLACK QUESTION MARK ORNAMENTaWHITEpbEXCLAMATIONoaBLACK DIAMOND MINUS WHITE X"),
  (0x2757, "aHEAVY EXCLAMATION MARK SYMBOLaLIGHT VERTICAL BARaMEDIUMoaHEAVYo"),
  (0x275B, "bSINGLE TURNED COMMA QUOTATION MARK ORNAMENTcqbDOUBLE TURNEDqcqbLOW SINGLEqcDOUBLEq"),
  (0x2761, "aCURVED STEM PARAGRAPH SIGNnaHEAVY EXCLAMATION MARKnbHEARTpbBLACK HEART"),
  (0x2765, "aROTATED HEAVY BLACK HEART BULLETaFLORAL HEARTaROTATED FLORAL HEART BULLET"),
  (0x2768, "aMEDIUM LEFT PARENTHESIS ORNAMENTbRIGHTobFLATTENED LEFTocRIGHTo"),
  (0x276C, "bLEFT-POINTING ANGLE BRACKETnbRIGHT-POINTINGp"),
  (0x276E, "aHEAVY LEFT-POINTING ANGLE QUOTATION MARKnbRIGHT-POINTINGq"),
  (0x2770, "bLEFT-POINTING ANGLE BRACKETnbRIGHT-POINTINGpaLIGHT LEFT TORTOISE SHELLobRIGHTq"),
  (0x2774, "aMEDIUM LEFT CURLYobRIGHTpaDINGBAT NEGATIVE CIRCLED DIGIT ONEeTWOeTHREEeFOUReFIVEeSIX"),
  (0x277C, "eSEVENeEIGHTeNINEdNUMBER TENbCIRCLED SANS-SERIF DIGIT ONEeTWOeTHREEeFOUReFIVEeSIX"),
  (0x2786, "eSEVENeEIGHTeNINEdNUMBER TENbNEGATIVE CIRCLED SANS-SERIF DIGIT ONEfTWOfTHREEfFOUR"),
  (0x278E, "fFIVEfSIXfSEVENfEIGHTfNINEeNUMBER TENaHEAVY WIDE-HEADED RIGHTWARDS ARROWbPLUS SIGN"),
  (0x2796, "bMINUSnbDIVISIONnbSOUTH EAST ARROWbRIGHTWARDSnbNORTH EASTnaDRAFTING POINT RIGHTWARDSn"),
  (0x279C, "aHEAVY ROUND-TIPPEDoaTRIANGLE-HEADEDoaHEAVYpaDASHEDpaHEAVYqaBLACKo"),
  (0x27A2, "aTHREE-D TOP-LIGHTED RIGHTWARDS ARROWHEADbBOTTOM-LIGHTEDoaBLACKo"),
  (0x27A5, "aHEAVY BLACK CURVED DOWNWARDS AND RIGHTWARDS ARROWdUPWARDSpaSQUAT BLACKo"),
  (0x27A8, "aHEAVY CONCAVE-POINTEDpaRIGHT-SHADED WHITEoaLEFT-SHADEDpaBACK-TILTED SHADOWEDp"),
  (0x27AC, "aFRONT-TILTEDqaHEAVY LOWER RIGHT-SHADOWEDpbUPPERqaNOTCHED LOWERqaCURLY LOOP"),
  (0x27B1, "aNOTCHED UPPER RIGHT-SHADOWED WHITE RIGHTWARDS ARROWaCIRCLED HEAVYpaWHITE-FEATHEREDo"),
  (0x27B4, "aBLACK-FEATHERED SOUTH EASTnbRIGHTWARDSnbNORTH EASTnaHEAVY BLACK-FEATHERED SOUTHo"),
  (0x27B8, "cRIGHTWARDSncNORTH EASTnaTEARDROP-BARBED RIGHTWARDSnaHEAVY TEARDROP-SHANKEDo"),
  (0x27BC, "aWEDGE-TAILEDoaHEAVYpaOPEN-OUTLINEDoaDOUBLE CURLY LOOPaTHREE DIMENSIONAL ANGLE"),
  (0x27C1, "aWHITE TRIANGLE CONTAINING SMALL WHITE TRIANGLEaPERPENDICULARaOPEN SUBSETbSUPERSET"),
  (0x27C5, "aLEFT S-SHAPED BAG DELIMITERaRIGHTpaOR WITH DOT INSIDE"),
  (0x27C8, "aREVERSE SOLIDUS PRECEDING SUBSETaSUPERSET PRECEDING SOLIDUS"),
  (0x27CA, "aVERTICAL BAR WITH HORIZONTAL STROKEaMATHEMATICAL RISING DIAGONALaLONG DIVISION"),
  (0x27CD, "aMATHEMATICAL FALLING DIAGONALaSQUARED LOGICAL ANDcORaWHITE DIAMOND WITH CENTRED DOT"),
  (0x27D1, "aAND WITHnaELEMENT OF OPENING UPWARDSaLOWER RIGHT CORNER WITH DOTaUPPER LEFTp"),
  (0x27D5, "aLEFT OUTER JOINaRIGHToaFULLoaLARGE UP TACKbDOWNnaLEFT AND RIGHT DOUBLE TURNSTILE"),
  (0x27DB, "dTACKbMULTIMAPaLONG RIGHT TACKbLEFTnaUP TACK WITH CIRCLE ABOVE"),
  (0x27E0, "aLOZENGE DIVIDED BY HORIZONTAL RULEaWHITE CONCAVE-SIDED DIAMONDdWITH LEFTWARDS TICK"),
  (0x27E3, "eRIGHTWARDSnbSQUARE WITH LEFTWARDSndRIGHTWARDSn"),
  (0x27E6, "aMATHEMATICAL LEFT WHITE SQUARE BRACKETbRIGHTpbLEFT ANGLEnbRIGHTobLEFT DOUBLEobRIGHTp"),
  (0x27EC, "bLEFT WHITE TORTOISE SHELLnbRIGHTqbLEFT FLATTENED PARENTHESISbRIGHTo"),
  (0x27F0, "aUPWARDS QUADRUPLE ARROWaDOWNWARDSoaANTICLOCKWISE GAPPED CIRCLEnaCLOCKWISEp"),
  (0x27F4, "aRIGHT ARROW WITH CIRCLED PLUSaLONG LEFTWARDS ARROWbRIGHTWARDSnbLEFT RIGHTn"),
  (0x27F8, "bLEFTWARDS DOUBLEnbRIGHTWARDSobLEFT RIGHTobLEFTWARDS ARROW FROM BARbRIGHTWARDSp"),
  (0x27FD, "bLEFTWARDS DOUBLEpbRIGHTWARDSqcSQUIGGLE ARROWaBRAILLE PATTERN BLANK"),
  (0x2900, "aRIGHTWARDS TWO-HEADED ARROW WITH VERTICAL STROKEeDOUBLEo"),
  (0x2902, "aLEFTWARDS DOUBLE ARROW WITHoaRIGHTWARDSraLEFT RIGHTr"),
  (0x2905, "aRIGHTWARDS TWO-HEADED ARROW FROM BARaLEFTWARDS DOUBLEpaRIGHTWARDSq"),
  (0x2908, "aDOWNWARDS ARROW WITH HORIZONTAL STROKEaUPWARDSqbTRIPLE ARROWaDOWNWARDSo"),
  (0x290C, "aLEFTWARDS DOUBLE DASHnaRIGHTWARDSpaLEFTWARDS TRIPLEoaRIGHTWARDSpbTWO-HEADEDp"),
  (0x2911, "bARROW WITH DOTTED STEMaUPWARDS ARROW TO BARaDOWNWARDSp"),
  (0x2914, "aRIGHTWARDS ARROW WITH TAIL WITH VERTICAL STROKEfDOUBLEobTWO-HEADED ARROW WITH TAIL"),
  (0x2917, "fWITH VERTICAL STROKEgDOUBLEoaLEFTWARDS ARROW-TAILaRIGHTWARDSnaLEFTWARDS DOUBLEn"),
  (0x291C, "aRIGHTWARDSoaLEFTWARDS ARROW TO BLACK DIAMONDaRIGHTWARDSqaLEFTWARDS ARROW FROM BARp"),
  (0x2920, "aRIGHTWARDSsaNORTH WEST AND SOUTH EAST ARROWbEAST AND SOUTH WESTn"),
  (0x2923, "bWEST ARROW WITH HOOKbEASTpaSOUTHqbWESTpaNORTH WEST ARROW AND NORTH EAST ARROW"),
  (0x2928, "bEAST ARROW AND SOUTHoaSOUTH EAST ARROW AND SOUTH WESTnbWEST ARROW AND NORTHo"),
  (0x292B, "aRISING DIAGONAL CROSSING FALLING DIAGONALaFALLING DIAGONAL CROSSING RISINGn"),
  (0x292D, "aSOUTH EAST ARROW CROSSING NORTH EAST ARROWaNORTH EAST ARROW CROSSING SOUTHo"),
  (0x292F, "aFALLING DIAGONAL CROSSING NORTHoaRISING DIAGONAL CROSSING SOUTHo"),
  (0x2931, "aNORTH EAST ARROW CROSSING NORTH WESTnbWEST ARROW CROSSING NORTH EASTn"),
  (0x2933, "aWAVE ARROW POINTING DIRECTLY RIGHTaARROW POINTING RIGHTWARDS THEN CURVING UPWARDS"),
  (0x2935, "fDOWNWARDScDOWNWARDS THEN CURVING LEFTWARDSfRIGHTWARDSaRIGHT-SIDE ARC CLOCKWISE ARROW"),
  (0x2939, "aLEFT-SIDE ARC ANTICLOCKWISEnaTOPpaBOTTOMpaTOP ARC CLOCKWISE ARROW WITH MINUS"),
  (0x293D, "cANTICLOCKWISE ARROW WITH PLUSaLOWER RIGHT SEMICIRCULAR CLOCKWISE ARROW"),
  (0x293F, "bLEFT SEMICIRCULAR ANTICLOCKWISEnaANTICLOCKWISE CLOSED CIRCLEnaCLOCKWISEp"),
  (0x2942, "aRIGHTWARDS ARROW ABOVE SHORT LEFTWARDSnaLEFTWARDS ARROW ABOVE SHORT RIGHTWARDSn"),
  (0x2944, "aSHORT RIGHTWARDS ARROW ABOVE LEFTWARDSnaRIGHTWARDS ARROW WITH PLUS BELOWaLEFTWARDSq"),
  (0x2947, "aRIGHTWARDS ARROW THROUGH XaLEFT RIGHT ARROW THROUGH SMALL CIRCLE"),
  (0x2949, "aUPWARDS TWO-HEADED ARROW FROMoaLEFT BARB UP RIGHT BARB DOWN HARPOON"),
  (0x294B, "cDOWN RIGHT BARB UPnaUP BARB RIGHT DOWN BARB LEFTncLEFT DOWN BARB RIGHTn"),
  (0x294E, "aLEFT BARB UP RIGHT BARB UPnaUP BARB RIGHT DOWN BARB RIGHTn"),
  (0x2950, "aLEFT BARB DOWN RIGHT BARB DOWNnaUP BARB LEFT DOWN BARB LEFTn"),
  (0x2952, "aLEFTWARDS HARPOON WITH BARB UP TO BARaRIGHTWARDSsaUPWARDS HARPOON WITH BARB RIGHTo"),
  (0x2955, "aDOWNWARDSsaLEFTWARDS HARPOON WITH BARB DOWNoaRIGHTWARDSs"),
  (0x2958, "aUPWARDS HARPOON WITH BARB LEFToaDOWNWARDSsaLEFTWARDS HARPOON WITH BARB UP FROMn"),
  (0x295B, "aRIGHTWARDSsaUPWARDS HARPOON WITH BARB RIGHToaDOWNWARDSs"),
  (0x295E, "aLEFTWARDS HARPOON WITH BARB DOWNoaRIGHTWARDSsaUPWARDS HARPOON WITH BARB LEFTo"),
  (0x2961, "aDOWNWARDSsaLEFTWARDS HARPOON WITH BARB UP ABOVE LEFTWARDS HARPOON WITH BARB DOWN"),
  (0x2963, "aUPWARDS HARPOON WITH BARB LEFT BESIDE UPWARDS HARPOON WITH BARB RIGHT"),
  (0x2964, "aRIGHTWARDS HARPOON WITH BARB UP ABOVE RIGHTWARDS HARPOON WITH BARB DOWN"),
  (0x2965, "aDOWNWARDS HARPOON WITH BARB LEFT BESIDE DOWNWARDS HARPOON WITH BARB RIGHT"),
  (0x2966, "aLEFTWARDS HARPOON WITH BARB UP ABOVE RIGHTWARDS HARPOON WITH BARB UP"),
  (0x2967, "eDOWN ABOVE RIGHTWARDS HARPOON WITH BARB DOWN"),
  (0x2968, "aRIGHTWARDS HARPOON WITH BARB UP ABOVE LEFTWARDS HARPOON WITH BARB UP"),
  (0x2969, "eDOWN ABOVE LEFTWARDS HARPOON WITH BARB DOWN"),
  (0x296A, "aLEFTWARDS HARPOON WITH BARB UP ABOVE LONG DASHeDOWN BELOWo"),
  (0x296C, "aRIGHTWARDS HARPOON WITH BARB UP ABOVEoeDOWN BELOWo"),
  (0x296E, "aUPWARDS HARPOON WITH BARB LEFT BESIDE DOWNWARDS HARPOON WITH BARB RIGHT"),
  (0x296F, "aDOWNWARDS HARPOON WITH BARB LEFT BESIDE UPWARDSq"),
  (0x2970, "aRIGHT DOUBLE ARROW WITH ROUNDED HEADaEQUALS SIGN ABOVE RIGHTWARDS ARROW"),
  (0x2972, "aTILDE OPERATORpaLEFTWARDS ARROW ABOVE TILDE OPERATORaRIGHTWARDSqdALMOST EQUAL TO"),
  (0x2976, "aLESS-THAN ABOVE LEFTWARDS ARROWaLEFTWARDS ARROW THROUGH LESS-THAN"),
  (0x2978, "aGREATER-THAN ABOVE RIGHTWARDS ARROWaSUBSETpaLEFTWARDS ARROW THROUGH SUBSET"),
  (0x297B, "aSUPERSET ABOVE LEFTWARDS ARROWaLEFT FISH TAILaRIGHToaUPoaDOWNo"),
  (0x2980, "aTRIPLE VERTICAL BAR DELIMITERaZ NOTATION SPOTcTYPE COLONaLEFT WHITE CURLY BRACKET"),
  (0x2984, "aRIGHTpaLEFT WHITE PARENTHESISaRIGHToaZ NOTATION LEFT IMAGE BRACKETcRIGHTo"),
  (0x2989, "cLEFT BINDINGncRIGHToaLEFT SQUARE BRACKET WITH UNDERBARaRIGHTq"),
  (0x298D, "aLEFT SQUARE BRACKET WITH TICK IN TOP CORNER"),
  (0x298E, "aRIGHT SQUARE BRACKET WITH TICK IN BOTTOMnaLEFTt"),
  (0x2990, "aRIGHT SQUARE BRACKET WITH TICK IN TOPnaLEFT ANGLE BRACKET WITH DOTaRIGHTq"),
  (0x2993, "aLEFT ARC LESS-THAN BRACKETaRIGHT ARC GREATER-THANnaDOUBLE LEFTpbRIGHT ARC LESS-THANn"),
  (0x2997, "aLEFT BLACK TORTOISE SHELLnaRIGHTqaDOTTED FENCEaVERTICAL ZIGZAG LINE"),
  (0x299B, "aMEASURED ANGLE OPENING LEFTaRIGHT ANGLE VARIANT WITH SQUARE"),
  (0x299D, "aMEASURED RIGHT ANGLE WITH DOTaANGLE WITH S INSIDEaACUTE ANGLE"),
  (0x29A0, "aSPHERICAL ANGLE OPENING LEFTdUPaTURNED ANGLEaREVERSEDnaANGLE WITH UNDERBARaREVERSEDp"),
  (0x29A6, "aOBLIQUE ANGLE OPENING UPdDOWN"),
  (0x29A8, "aMEASURED ANGLE WITH OPEN ARM ENDING IN ARROW POINTING UP AND RIGHTlLEFT"),
  (0x29AA, "jDOWN AND RIGHTlLEFTjRIGHT AND UPjLEFTojRIGHT AND DOWNjLEFToaREVERSED EMPTY SET"),
  (0x29B1, "aEMPTY SET WITH OVERBARdSMALL CIRCLE ABOVEdRIGHT ARROWndLEFTo"),
  (0x29B5, "aCIRCLE WITH HORIZONTAL BARaCIRCLED VERTICALnbPARALLELbREVERSE SOLIDUSbPERPENDICULAR"),
  (0x29BA, "aCIRCLE DIVIDED BY HORIZONTAL BAR AND TOP HALF DIVIDED BY VERTICAL BAR"),
  (0x29BB, "bWITH SUPERIMPOSED XaCIRCLED ANTICLOCKWISE-ROTATED DIVISION SIGN"),
  (0x29BD, "aUP ARROW THROUGH CIRCLEaCIRCLED WHITE BULLETbnbLESS-THANbGREATER-THAN"),
  (0x29C2, "aCIRCLE WITH SMALL CIRCLE TO THE RIGHTcTWO HORIZONTAL STROKESp"),
  (0x29C4, "aSQUARED RISING DIAGONAL SLASHbFALLINGobASTERISKbSMALL CIRCLEbSQUARE"),
  (0x29C9, "aTWO JOINED SQUARESaTRIANGLE WITH DOT ABOVEcUNDERBARaS IN TRIANGLE"),
  (0x29CD, "aTRIANGLE WITH SERIFS AT BOTTOMaRIGHT TRIANGLE ABOVE LEFT TRIANGLE"),
  (0x29CF, "aLEFT TRIANGLE BESIDE VERTICAL BARaVERTICAL BAR BESIDE RIGHT TRIANGLE"),
  (0x29D1, "aBOWTIE WITH LEFT HALF BLACKcRIGHToaBLACK BOWTIEaTIMES WITH LEFT HALF BLACKcRIGHTo"),
  (0x29D6, "aWHITE HOURGLASSaBLACKnaLEFT WIGGLY FENCEaRIGHToaLEFT DOUBLEoaRIGHTp"),
  (0x29DC, "aINCOMPLETE INFINITYaTIE OVERnaINFINITY NEGATED WITH VERTICAL BAR"),
  (0x29DF, "aDOUBLE-ENDED MULTIMAPaSQUARE WITH CONTOURED OUTLINEaINCREASES ASaSHUFFLE PRODUCT"),
  (0x29E3, "aEQUALS SIGN AND SLANTED PARALLELfWITH TILDE ABOVEaIDENTICAL TO AND SLANTED PARALLEL"),
  (0x29E6, "aGLEICH STARKaTHERMODYNAMICaDOWN-POINTING TRIANGLE WITH LEFT HALF BLACKdRIGHTo"),
  (0x29EA, "aBLACK DIAMOND WITH DOWN ARROWbLOZENGEaWHITE CIRCLE WITH DOWN ARROWaBLACKq"),
  (0x29EE, "aERROR-BARRED WHITE SQUAREbBLACKnbWHITE DIAMONDbBLACKnbWHITE CIRCLEbBLACKn"),
  (0x29F4, "aRULE-DELAYEDaREVERSE SOLIDUS OPERATORaSOLIDUS WITH OVERBAR"),
  (0x29F7, "aREVERSE SOLIDUS WITH HORIZONTAL STROKEaBIG SOLIDUSbREVERSEnaDOUBLE PLUSaTRIPLEn"),
  (0x29FC, "aLEFT-POINTING CURVED ANGLE BRACKETaRIGHT-POINTINGpaTINYaMINY"),
  (0x2A00, "aN-ARY CIRCLED DOT OPERATORcPLUSncTIMESnbUNION OPERATOR WITH DOTePLUS"),
  (0x2A05, "bSQUARE INTERSECTION OPERATORcUNIONnaTWO LOGICAL ANDncORnaN-ARY TIMESnaMODULO TWO SUM"),
  (0x2A0B, "aSUMMATION WITH INTEGRALaQUADRUPLE INTEGRAL OPERATORaFINITE PART INTEGRAL"),
  (0x2A0E, "aINTEGRAL WITH DOUBLE STROKEbAVERAGE WITH SLASHaCIRCULATION FUNCTION"),
  (0x2A11, "aANTICLOCKWISE INTEGRATIONaLINE INTEGRATION WITH RECTANGULAR PATH AROUND POLE"),
  (0x2A13, "dSEMICIRCULARpcNOT INCLUDING THEnaINTEGRAL AROUND A POINT OPERATOR"),
  (0x2A16, "aQUATERNION INTEGRALnaINTEGRAL WITH LEFTWARDS ARROW WITH HOOKcTIMES SIGNcINTERSECTION"),
  (0x2A1A, "cUNIONcOVERBARcUNDERBARaJOINaLARGE LEFT TRIANGLE OPERATOR"),
  (0x2A1F, "aZ NOTATION SCHEMA COMPOSITIONdPIPINGdPROJECTIONaPLUS SIGN WITH SMALL CIRCLE ABOVE"),
  (0x2A23, "dCIRCUMFLEX ACCENTndTILDEndDOT BELOWdTILDEndSUBSCRIPT TWOdBLACK TRIANGLE"),
  (0x2A29, "aMINUS SIGN WITH COMMA ABOVEdDOT BELOWdFALLING DOTSdRISINGn"),
  (0x2A2D, "aPLUS SIGN IN LEFT HALF CIRCLEdRIGHToaVECTOR OR CROSS PRODUCT"),
  (0x2A30, "aMULTIPLICATION SIGN WITH DOT ABOVEdUNDERBARaSEMIDIRECT PRODUCT WITH BOTTOM CLOSED"),
  (0x2A33, "aSMASH PRODUCTaMULTIPLICATION SIGN IN LEFT HALF CIRCLEdRIGHTo"),
  (0x2A36, "aCIRCLED MULTIPLICATION SIGN WITH CIRCUMFLEX ACCENT"),
  (0x2A37, "aMULTIPLICATION SIGN IN DOUBLE CIRCLEaCIRCLED DIVISION SIGNaPLUS SIGN IN TRIANGLE"),
  (0x2A3A, "aMINUSpaMULTIPLICATIONpaINTERIOR PRODUCTaRIGHTHANDoaZ NOTATION RELATIONAL COMPOSITION"),
  (0x2A3F, "aAMALGAMATION OR COPRODUCTaINTERSECTION WITH DOTaUNION WITH MINUS SIGNcOVERBAR"),
  (0x2A43, "aINTERSECTIONocLOGICAL ANDaUNION WITH LOGICAL ORbABOVE INTERSECTION"),
  (0x2A47, "aINTERSECTION ABOVE UNIONaUNION ABOVE BAR ABOVE INTERSECTION"),
  (0x2A49, "aINTERSECTION ABOVE BAR ABOVE UNIONaUNION BESIDE AND JOINED WITHn"),
  (0x2A4B, "aINTERSECTION BESIDE AND JOINED WITH INTERSECTIONaCLOSED UNION WITH SERIFS"),
  (0x2A4D, "bINTERSECTIONoaDOUBLE SQUARE INTERSECTIONcUNION"),
  (0x2A50, "aCLOSED UNION WITH SERIFS AND SMASH PRODUCTaLOGICAL AND WITH DOT ABOVEbORp"),
  (0x2A53, "aDOUBLE LOGICAL ANDcORaTWO INTERSECTING LOGICAL ANDdORaSLOPING LARGEncAND"),
  (0x2A59, "aLOGICAL OR OVERLAPPING LOGICALnbAND WITH MIDDLE STEMbORpbAND WITH HORIZONTAL DASH"),
  (0x2A5D, "bORpbAND WITH DOUBLE OVERBARdUNDERBARdDOUBLEnaSMALL VEE WITHn"),
  (0x2A62, "aLOGICAL OR WITH DOUBLE OVERBAReUNDERBARaZ NOTATION DOMAIN ANTIRESTRICTIONcRANGEn"),
  (0x2A66, "aEQUALS SIGN WITH DOT BELOWaIDENTICAL WITH DOT ABOVE"),
  (0x2A68, "aTRIPLE HORIZONTAL BAR WITH DOUBLE VERTICAL STROKEeTRIPLEo"),
  (0x2A6A, "aTILDE OPERATOR WITH DOT ABOVEdRISING DOTSaSIMILAR MINUS SIMILAR"),
  (0x2A6D, "aCONGRUENT WITH DOT ABOVEaEQUALS WITH ASTERISKaALMOST EQUAL TO WITH CIRCUMFLEX ACCENT"),
  (0x2A70, "aAPPROXIMATELY EQUAL OR EQUAL TOaEQUALS SIGN ABOVE PLUS SIGNaPLUS SIGN ABOVE EQUALSn"),
  (0x2A73, "aEQUALS SIGN ABOVE TILDE OPERATORaDOUBLE COLON EQUALaTWO CONSECUTIVE EQUALS SIGNS"),
  (0x2A76, "aTHREEpaEQUALS SIGN WITH TWO DOTS ABOVE AND TWO DOTS BELOW"),
  (0x2A78, "aEQUIVALENT WITH FOUR DOTS ABOVEaLESS-THAN WITH CIRCLE INSIDEaGREATER-THANp"),
  (0x2A7B, "aLESS-THAN WITH QUESTION MARK ABOVEaGREATER-THANqaLESS-THAN OR SLANTED EQUAL TO"),
  (0x2A7E, "aGREATER-THANqaLESS-THAN OR SLANTED EQUAL TO WITH DOT INSIDEaGREATER-THANt"),
  (0x2A81, "aLESS-THAN OR SLANTED EQUAL TO WITH DOT ABOVEaGREATER-THANt"),
  (0x2A83, "aLESS-THAN OR SLANTED EQUAL TO WITH DOT ABOVE RIGHT"),
  (0x2A84, "aGREATER-THAN OR SLANTED EQUAL TO WITH DOT ABOVE LEFTaLESS-THAN OR APPROXIMATE"),
  (0x2A86, "aGREATER-THANoaLESS-THAN AND SINGLE-LINE NOT EQUAL TOaGREATER-THANr"),
  (0x2A89, "aLESS-THAN AND NOT APPROXIMATEaGREATER-THANp"),
  (0x2A8B, "aLESS-THAN ABOVE DOUBLE-LINE EQUAL ABOVE GREATER-THAN"),
  (0x2A8C, "aGREATER-THAN ABOVE DOUBLE-LINE EQUAL ABOVE LESS-THAN"),
  (0x2A8D, "aLESS-THAN ABOVE SIMILAR OR EQUALaGREATER-THANq"),
  (0x2A8F, "aLESS-THAN ABOVE SIMILAR ABOVE GREATER-THAN"),
  (0x2A90, "aGREATER-THAN ABOVE SIMILAR ABOVE LESS-THAN"),
  (0x2A91, "aLESS-THAN ABOVE GREATER-THAN ABOVE DOUBLE-LINE EQUALaGREATER-THAN ABOVE LESS-THANp"),
  (0x2A93, "aLESS-THAN ABOVE SLANTED EQUAL ABOVE GREATER-THAN ABOVE SLANTEDn"),
  (0x2A94, "aGREATER-THAN ABOVE SLANTED EQUAL ABOVE LESS-THANpaSLANTED EQUAL TO OR LESS-THAN"),
  (0x2A96, "eGREATER-THANeLESS-THAN WITH DOT INSIDEeGREATER-THANp"),
  (0x2A99, "aDOUBLE-LINE EQUAL TO OR LESS-THANeGREATER-THANbSLANTED EQUAL TO OR LESS-THAN"),
  (0x2A9C, "fGREATER-THANaSIMILAR OR LESS-THANcGREATER-THANbABOVE LESS-THAN ABOVE EQUALS SIGN"),
  (0x2AA0, "cGREATER-THANpaDOUBLE NESTED LESS-THANcGREATER-THANcLESS-THAN WITH UNDERBAR"),
  (0x2AA4, "aGREATER-THAN OVERLAPPING LESS-THANbBESIDEnaLESS-THAN CLOSED BY CURVEaGREATER-THANp"),
  (0x2AA8, "aLESS-THAN CLOSED BY CURVE ABOVE SLANTED EQUALaGREATER-THANsaSMALLER THANaLARGERn"),
  (0x2AAC, "aSMALLER THAN OR EQUAL TOaLARGERqaEQUALS SIGN WITH BUMPY ABOVE"),
  (0x2AAF, "aPRECEDES ABOVE SINGLE-LINE EQUALS SIGNaSUCCEEDSq"),
  (0x2AB1, "aPRECEDES ABOVE SINGLE-LINE NOT EQUAL TOaSUCCEEDSraPRECEDES ABOVE EQUALS SIGN"),
  (0x2AB4, "aSUCCEEDSpaPRECEDES ABOVE NOT EQUAL TOaSUCCEEDSqaPRECEDES ABOVE ALMOSToaSUCCEEDSq"),
  (0x2AB9, "aPRECEDES ABOVE NOTpaSUCCEEDSraDOUBLE PRECEDESbSUCCEEDSaSUBSET WITH DOTaSUPERSETo"),
  (0x2ABF, "aSUBSET WITH PLUS SIGN BELOWaSUPERSETqaSUBSET WITH MULTIPLICATIONoaSUPERSETq"),
  (0x2AC3, "aSUBSET OF OR EQUAL TO WITH DOT ABOVEaSUPERSETtaSUBSET OF ABOVE EQUALS SIGNaSUPERSETq"),
  (0x2AC7, "aSUBSET OF ABOVE TILDE OPERATORaSUPERSETqaSUBSET OF ABOVE ALMOST EQUAL TOaSUPERSETr"),
  (0x2ACB, "aSUBSET OF ABOVE NOToaSUPERSETraSQUARE LEFT OPEN BOX OPERATORbRIGHTpaCLOSED SUBSET"),
  (0x2AD0, "bSUPERSETbSUBSET OR EQUAL TObSUPERSETpaSUBSET ABOVE SUPERSETaSUPERSET ABOVE SUBSET"),
  (0x2AD5, "aSUBSEToaSUPERSET ABOVE SUPERSETbBESIDE SUBSETcAND JOINED BY DASH WITHn"),
  (0x2AD9, "aELEMENT OF OPENING DOWNWARDSaPITCHFORK WITH TEE TOPaTRANSVERSAL INTERSECTIONaFORKING"),
  (0x2ADD, "aNONFORKINGaSHORT LEFT TACKbDOWNnbUPnaPERPENDICULAR WITH S"),
  (0x2AE2, "aVERTICAL BAR TRIPLE RIGHT TURNSTILEaDOUBLE VERTICAL BAR LEFTnaVERTICAL BAR DOUBLEo"),
  (0x2AE5, "aDOUBLEraLONG DASH FROM LEFT MEMBER OF DOUBLE VERTICALaSHORT DOWN TACK WITH OVERBAR"),
  (0x2AE8, "bUP TACK WITH UNDERBARdABOVE SHORT DOWN TACKaDOUBLEobUPnbSTROKE NOT SIGNaREVERSEDq"),
  (0x2AEE, "aDOES NOT DIVIDE WITH REVERSED NEGATION SLASHaVERTICAL LINE WITH CIRCLE ABOVEeBELOW"),
  (0x2AF1, "aDOWN TACKpaPARALLEL WITH HORIZONTAL STROKEcTILDE OPERATOR"),
  (0x2AF4, "aTRIPLE VERTICAL BAR BINARY RELATIONdWITH HORIZONTAL STROKEbCOLON OPERATOR"),
  (0x2AF7, "bNESTED LESS-THANcGREATER-THANaDOUBLE-LINE SLANTED LESS-THAN OR EQUAL TO"),
  (0x2AFA, "cGREATER-THANpaTRIPLE SOLIDUS BINARY RELATIONaLARGE TRIPLE VERTICAL BAR OPERATOR"),
  (0x2AFD, "aDOUBLE SOLIDUSnaWHITE VERTICAL BARaN-ARYpaNORTH EAST WHITE ARROWbWESToaSOUTH EASTo"),
  (0x2B03, "bWESToaLEFT RIGHToaLEFTWARDS BLACKnaUPWARDSoaDOWNWARDSoaNORTH EASTobWESToaSOUTH EASTo"),
  (0x2B0B, "bWESToaLEFT RIGHToaUP DOWNoaRIGHTWARDS ARROW WITH TIP DOWNWARDSeUPWARDS"),
  (0x2B10, "aLEFTWARDS ARROW WITH TIP DOWNWARDSeUPWARDSaSQUARE WITH TOP HALF BLACKcBOTTOMo"),
  (0x2B14, "cUPPER RIGHT DIAGONALocLOWER LEFTpaDIAMOND WITH LEFTocRIGHTocTOPocBOTTOMo"),
  (0x2B1A, "aDOTTED SQUAREaBLACK LARGEnaWHITEoaBLACK VERY SMALLnaWHITEpaBLACK PENTAGONaWHITEn"),
  (0x2B21, "bHEXAGONaBLACKnaHORIZONTALoaBLACK LARGE CIRCLEbMEDIUM DIAMONDaWHITEo"),
  (0x2B27, "aBLACK MEDIUM LOZENGEaWHITEoaBLACK SMALL DIAMONDcLOZENGEaWHITEo"),
  (0x2B2C, "aBLACK HORIZONTAL ELLIPSEaWHITEoaBLACK VERTICALnaWHITEoaLEFT ARROW WITH SMALL CIRCLE"),
  (0x2B31, "aTHREE LEFTWARDS ARROWSaLEFT ARROW WITH CIRCLED PLUSaLONG LEFTWARDS SQUIGGLE ARROW"),
  (0x2B34, "aLEFTWARDS TWO-HEADED ARROW WITH VERTICAL STROKEeDOUBLEodFROM BARcTRIPLE DASH ARROW"),
  (0x2B38, "bARROW WITH DOTTED STEMdTAIL WITH VERTICAL STROKEfDOUBLEobTWO-HEADED ARROW WITH TAIL"),
  (0x2B3C, "fWITH VERTICAL STROKEgDOUBLEobARROW THROUGH XaWAVE ARROW POINTING DIRECTLY LEFT"),
  (0x2B40, "aEQUALS SIGN ABOVE LEFTWARDS ARROWaREVERSE TILDE OPERATORp"),
  (0x2B42, "aLEFTWARDS ARROW ABOVE REVERSE ALMOST EQUAL TOaRIGHTWARDS ARROW THROUGH GREATER-THAN"),
  (0x2B44, "dSUPERSETaLEFTWARDS QUADRUPLE ARROWaRIGHTWARDSo"),
  (0x2B47, "aREVERSE TILDE OPERATOR ABOVE RIGHTWARDSn"),
  (0x2B48, "aRIGHTWARDS ARROW ABOVE REVERSE ALMOST EQUAL TOaTILDE OPERATOR ABOVE LEFTWARDS ARROW"),
  (0x2B4A, "aLEFTWARDS ARROW ABOVE ALMOST EQUAL TOdREVERSE TILDE OPERATORaRIGHTWARDSr"),
  (0x2B4D, "aDOWNWARDS TRIANGLE-HEADED ZIGZAG ARROWaSHORT SLANTED NORTHnbBACKSLANTED SOUTHn"),
  (0x2B50, "aWHITE MEDIUM STARaBLACK SMALLnaWHITEoaBLACK RIGHT-POINTING PENTAGONaWHITEo"),
  (0x2B55, "aHEAVY LARGE CIRCLEbOVAL WITH OVAL INSIDEbCIRCLE WITH CIRCLEncbCIRCLED SALTIRE"),
  (0x2B5A, "aSLANTED NORTH ARROW WITH HOOKED HEADaBACKSLANTED SOUTH ARROW WITH HOOKED TAIL"),
  (0x2B5C, "aSLANTED NORTH ARROW WITH HORIZONTALnaBACKSLANTED SOUTHq"),
  (0x2B5E, "aBENT ARROW POINTING DOWNWARDS THEN NORTH EASTaSHORTtaLEFTWARDS TRIANGLE-HEADED ARROW"),
  (0x2B61, "aUPWARDSoaRIGHTWARDSoaDOWNWARDSoaLEFT RIGHToaUP DOWNoaNORTH WESTobEASToaSOUTHpbWESTo"),
  (0x2B6A, "aLEFTWARDS TRIANGLE-HEADED DASHEDnaUPWARDSpaRIGHTWARDSpaDOWNWARDSp"),
  (0x2B6E, "aCLOCKWISE TRIANGLE-HEADED OPEN CIRCLEnaANTICLOCKWISEq"),
  (0x2B70, "aLEFTWARDS TRIANGLE-HEADED ARROW TO BARaUPWARDSqaRIGHTWARDSqaDOWNWARDSq"),
  (0x2B76, "aNORTH WESTqbEASTqaSOUTHrbWESTq"),
  (0x2B7A, "aLEFTWARDS TRIANGLE-HEADED ARROW WITH DOUBLE HORIZONTAL STROKEaUPWARDSsaRIGHTWARDSs"),
  (0x2B7D, "aDOWNWARDSsaHORIZONTAL TAB KEYaVERTICALo"),
  (0x2B80, "aLEFTWARDS TRIANGLE-HEADED ARROW OVER RIGHTWARDS TRIANGLE-HEADED ARROW"),
  (0x2B81, "aUPWARDS TRIANGLE-HEADED ARROW LEFTWARDS OF DOWNWARDSo"),
  (0x2B82, "aRIGHTWARDS TRIANGLE-HEADED ARROW OVER LEFTWARDSo"),
  (0x2B83, "aDOWNWARDS TRIANGLE-HEADED ARROW LEFTWARDS OF UPWARDSo"),
  (0x2B84, "aLEFTWARDS TRIANGLE-HEADED PAIRED ARROWSaUPWARDSpaRIGHTWARDSpaDOWNWARDSp"),
  (0x2B88, "aLEFTWARDS BLACK CIRCLED WHITE ARROWaUPWARDSqaRIGHTWARDSqaDOWNWARDSq"),
  (0x2B8C, "aANTICLOCKWISE TRIANGLE-HEADED RIGHT U-SHAPEDncBOTTOMocLEFTocTOPoaRETURN LEFTbRIGHT"),
  (0x2B92, "aNEWLINE LEFTbRIGHTaFOUR CORNER ARROWS CIRCLING ANTICLOCKWISEaRIGHTWARDS BLACK ARROW"),
  (0x2B97, "aSYMBOL FOR TYPE A ELECTRONICSaTHREE-D TOP-LIGHTED LEFTWARDS EQUILATERAL ARROWHEAD"),
  (0x2B99, "bRIGHT-LIGHTED UPWARDSobTOP-LIGHTED RIGHTWARDSobLEFT-LIGHTED DOWNWARDSo"),
  (0x2B9C, "aBLACK LEFTWARDSobUPWARDSobRIGHTWARDSobDOWNWARDSo"),
  (0x2BA0, "aDOWNWARDS TRIANGLE-HEADED ARROW WITH LONG TIP LEFTWARDSgRIGHTWARDS"),
  (0x2BA2, "aUPWARDS TRIANGLE-HEADED ARROW WITH LONG TIP LEFTWARDSgRIGHTWARDS"),
  (0x2BA4, "aLEFTWARDS TRIANGLE-HEADED ARROW WITH LONG TIP UPWARDSaRIGHTWARDSs"),
  (0x2BA6, "aLEFTWARDS TRIANGLE-HEADED ARROW WITH LONG TIP DOWNWARDSaRIGHTWARDSs"),
  (0x2BA8, "aBLACK CURVED DOWNWARDS AND LEFTWARDS ARROWeRIGHTWARDSncUPWARDS AND LEFTWARDSn"),
  (0x2BAB, "eRIGHTWARDSncLEFTWARDS AND UPWARDSncRIGHTWARDSpcLEFTWARDS AND DOWNWARDSncRIGHTWARDSp"),
  (0x2BB0, "aRIBBON ARROW DOWN LEFTdRIGHTcUP LEFTdRIGHTcLEFT UPcRIGHTncLEFT DOWNcRIGHTn"),
  (0x2BB8, "aUPWARDS WHITE ARROW FROM BAR WITH HORIZONTAL BARaUP ARROWHEAD IN A RECTANGLE BOX"),
  (0x2BBA, "aOVERLAPPING WHITE SQUAREScAND BLACKnboaBALLOT BOX WITH LIGHT XaCIRCLEDnbBOLDn"),
  (0x2BC0, "aBLACK SQUARE CENTREDbDIAMONDnaTURNED BLACK PENTAGONaHORIZONTAL BLACK OCTAGONao"),
  (0x2BC5, "bMEDIUM UP-POINTING TRIANGLE CENTREDcDOWN-POINTINGocLEFT-POINTINGocRIGHT-POINTINGo"),
  (0x2BC9, "aNEPTUNE FORM TWOaTOP HALF BLACK CIRCLEaBOTTOMpaLIGHT FOUR POINTED BLACK CUSP"),
  (0x2BCD, "aROTATEDraWHITE FOUR POINTEDnaROTATEDqaSQUARE POSITION INDICATORaUNCERTAINTY SIGN"),
  (0x2BD2, "aGROUP MARKaPLUTO FORM TWOcTHREEcFOURcFIVEaTRANSPLUTOaPROSERPINAaASTRAEAaHYGIEA"),
  (0x2BDB, "aPHOLUSaNESSUSaWHITE MOON SELENAaBLACK DIAMOND ON CROSSaTRUE LIGHT MOON ARTAaCUPIDO"),
  (0x2BE1, "aHADESaZEUSaKRONOSaAPOLLONaADMETOSaVULCANUSaPOSEIDONaLEFT HALF BLACK STARaRIGHTp"),
  (0x2BEA, "aSTAR WITH LEFT HALF BLACKcRIGHToaLEFTWARDS TWO-HEADED ARROW WITH TRIANGLE ARROWHEADS"),
  (0x2BED, "aUPWARDSraRIGHTWARDSraDOWNWARDSraERIS FORM ONEcTWOaSEDNA"),
  (0x2BF3, "aRUSSIAN ASTROLOGICAL SYMBOL VIGINTILEdNOVILEdQUINTILEdBINOVILEdSENTAGONdTREDECILE"),
  (0x2BF9, "aEQUALS SIGN WITH INFINITY BELOWaUNITED SYMBOLaSEPARATEDnaDOUBLEDnaPASSEDn"),
  (0x2BFE, "aREVERSED RIGHT ANGLEaHELLSCHREIBER PAUSE SYMBOLaGLAGOLITIC CAPITAL LETTER AZUdBUKY"),
  (0x2C02, "dVEDEdGLAGOLIdDOBROdYESTUdZHIVETEdDZELOdZEMLJAdIZHEdINITIALndIdDJERVIdKAKOdLJUDIJE"),
  (0x2C0F, "dMYSLITEdNASHIdONUdPOKOJIdRITSIdSLOVOdTVRIDOdUKUdFRITUdHERUdOTUdPEdSHTAdTSIdCHRIVI"),
  (0x2C1E, "dSHAdYERUdYERIdYATIdSPIDERY HAdYUdSMALL YUSfWITH TAILdYOdIOTATED SMALL YUSdBIGn"),
  (0x2C29, "dIOTATEDodFITAdIZHITSAdSHTAPICdTROKUTASTI AdLATINATE MYSLITEdCAUDATE CHRIVI"),
  (0x2C30, "bSMALL LETTER AZUdBUKYdVEDEdGLAGOLIdDOBROdYESTUdZHIVETEdDZELOdZEMLJAdIZHEdINITIALndI"),
  (0x2C3C, "dDJERVIdKAKOdLJUDIJEdMYSLITEdNASHIdONUdPOKOJIdRITSIdSLOVOdTVRIDOdUKUdFRITUdHERUdOTU"),
  (0x2C4A, "dPEdSHTAdTSIdCHRIVIdSHAdYERUdYERIdYATIdSPIDERY HAdYUdSMALL YUSfWITH TAILdYO"),
  (0x2C57, "dIOTATED SMALL YUSdBIGndIOTATEDodFITAdIZHITSAdSHTAPICdTROKUTASTI AdLATINATE MYSLITE"),
  (0x2C5F, "dCAUDATE CHRIVIaLATIN CAPITAL LETTER L WITH DOUBLE BARbSMALLr"),
  (0x2C62, "bCAPITAL LETTER L WITH MIDDLE TILDEdP WITH STROKEdR WITH TAIL"),
  (0x2C65, "bSMALL LETTER A WITH STROKEdT WITH DIAGONALnbCAPITAL LETTER H WITH DESCENDERbSMALLq"),
  (0x2C69, "bCAPITAL LETTER KobSMALLqbCAPITAL LETTER ZobSMALLqbCAPITAL LETTER ALPHAdM WITH HOOK"),
  (0x2C6F, "dTURNED AeALPHAbSMALL LETTER V WITH RIGHT HOOKbCAPITAL LETTER W WITHnbSMALLq"),
  (0x2C74, "dV WITH CURLbCAPITAL LETTER HALF HbSMALLpdTAILLESS PHIdE WITH NOTCH"),
  (0x2C79, "dTURNED R WITH TAILdO WITH LOW RING INSIDEbLETTER SMALL CAPITAL TURNED E"),
  (0x2C7C, "bSUBSCRIPT SMALL LETTER JaMODIFIER LETTER CAPITAL V"),
  (0x2C7E, "aLATIN CAPITAL LETTER S WITH SWASH TAILdZpaCOPTIC CAPITAL LETTER ALFAbSMALLo"),
  (0x2C82, "bCAPITAL LETTER VIDAbSMALLobCAPITAL LETTER GAMMAbSMALLobCAPITAL LETTER DALDAbSMALLo"),
  (0x2C88, "bCAPITAL LETTER EIEbSMALLobCAPITAL LETTER SOUbSMALLobCAPITAL LETTER ZATAbSMALLo"),
  (0x2C8E, "bCAPITAL LETTER HATEbSMALLobCAPITAL LETTER THETHEbSMALLobCAPITAL LETTER IAUDAbSMALLo"),
  (0x2C94, "bCAPITAL LETTER KAPAbSMALLobCAPITAL LETTER LAULAbSMALLobCAPITAL LETTER MIbSMALLo"),
  (0x2C9A, "bCAPITAL LETTER NIbSMALLobCAPITAL LETTER KSIbSMALLobCAPITAL LETTER ObSMALLo"),
  (0x2CA0, "bCAPITAL LETTER PIbSMALLobCAPITAL LETTER RObSMALLobCAPITAL LETTER SIMAbSMALLo"),
  (0x2CA6, "bCAPITAL LETTER TAUbSMALLobCAPITAL LETTER UAbSMALLobCAPITAL LETTER FIbSMALLo"),
  (0x2CAC, "bCAPITAL LETTER KHIbSMALLobCAPITAL LETTER PSIbSMALLobCAPITAL LETTER OOUbSMALLo"),
  (0x2CB2, "bCAPITAL LETTER DIALECT-P ALEFbSMALLpbCAPITAL LETTER OLD COPTIC AINbSMALLq"),
  (0x2CB6, "bCAPITAL LETTER CRYPTOGRAMMIC EIEbSMALLpbCAPITAL LETTER DIALECT-P KAPAbSMALLp"),
  (0x2CBA, "bCAPITAL LETTER DIALECT-P NIbSMALLpbCAPITAL LETTER CRYPTOGRAMMICnbSMALLp"),
  (0x2CBE, "bCAPITAL LETTER OLD COPTIC OOUbSMALLqbCAPITAL LETTER SAMPIbSMALLo"),
  (0x2CC2, "bCAPITAL LETTER CROSSED SHEIbSMALLpbCAPITAL LETTER OLD COPTICnbSMALLq"),
  (0x2CC6, "bCAPITAL LETTER OLD COPTIC ESHbSMALLqbCAPITAL LETTER AKHMIMIC KHEIbSMALLp"),
  (0x2CCA, "bCAPITAL LETTER DIALECT-P HORIbSMALLpbCAPITAL LETTER OLD COPTICnbSMALLq"),
  (0x2CCE, "bCAPITAL LETTER OLD COPTIC HAbSMALLqbCAPITAL LETTER L-SHAPEDnbSMALLp"),
  (0x2CD2, "bCAPITAL LETTER OLD COPTIC HEIbSMALLqbCAPITAL LETTER OLD COPTIC HATbSMALLq"),
  (0x2CD6, "bCAPITAL LETTER OLD COPTIC GANGIAbSMALLqbCAPITAL LETTER OLD COPTIC DJAbSMALLq"),
  (0x2CDA, "bCAPITAL LETTER OLD COPTIC SHIMAbSMALLqbCAPITAL LETTER OLD NUBIANnbSMALLq"),
  (0x2CDE, "bCAPITAL LETTER OLD NUBIAN NGIbSMALLqbCAPITAL LETTER OLD NUBIAN NYIbSMALLq"),
  (0x2CE2, "bCAPITAL LETTER OLD NUBIAN WAUbSMALLqbSYMBOL KAIcMI ROcPIncSTAUROScTAU ROcKHIn"),
  (0x2CEA, "cSHIMA SIMAbCAPITAL LETTER CRYPTOGRAMMIC SHEIbSMALLp"),
  (0x2CED, "bCAPITAL LETTER CRYPTOGRAMMIC GANGIAbSMALLpbCOMBINING NI ABOVEcSPIRITUS ASPERdLENIS"),
  (0x2CF2, "bCAPITAL LETTER BOHAIRIC KHEIbSMALLp"),
  (0x2CF9, "bOLD NUBIAN FULL STOPdDIRECT QUESTION MARKdINDIRECTodVERSE DIVIDERbFRACTION ONE HALF"),
  (0x2CFE, "bFULL STOPbMORPHOLOGICAL DIVIDERaGEORGIAN SMALL LETTER ANdBANdGANdDONdENdVINdZENdTAN"),
  (0x2D08, "dINdKANdLASdMANdNARdONdPARdZHARdRAEdSANdTARdUNdPHARdKHARdGHANdQARdSHINdCHINdCANdJIL"),
  (0x2D1C, "dCILdCHARdXANdJHANdHAEdHEdHIEdWEdHARdHOE"),
  (0x2D27, "dYN"),
  (0x2D2D, "dAEN"),
  (0x2D30, "aTIFINAGH LETTER YAcYABcYABHcYAGcYAGHHcBERBER ACADEMY YAJcncYADcYADHcYADDcYADDHcYEY"),
  (0x2D3C, "cYAFcYAKcTUAREGncYAKHHcYAHcBERBER ACADEMYncTUAREGncYAHHcYAAcYAKHcTUAREGncYAQcTUAREGn"),
  (0x2D49, "cYIcYAZHcAHAGGARncTUAREGncYALcYAMcYANcTUAREG YAGNdYANGcYAPcYUcYARcYARRcYAGHcTUAREGn"),
  (0x2D58, "cAYERncYAScYASScYASHcYATcYATHcYACHcYATTcYAVcYAWcYAYcYAZcTAWELLEMETncYAZZcYEcYO"),
  (0x2D6F, "bMODIFIER LETTER LABIALIZATION MARKbSEPARATORn"),
  (0x2D7F, "bCONSONANT JOINERaETHIOPIC SYLLABLE LOAcMOAcROAcSOAcSHOAcBOAcTOAcCOAcNOAcNYOA"),
  (0x2D8A, "cGLOTTAL OAcZOAcDOAcDDOAcJOAcTHOAcCHOAcPHOAcPOAcGGWAcGGWIcGGWEEcGGWE"),
  (0x2DA0, "cSSAcSSUcSSIcSSAAcSSEEcSSEcSSO"),
  (0x2DA8, "cCCAcCCUcCCIcCCAAcCCEEcCCEcCCO"),
  (0x2DB0, "cZZAcZZUcZZIcZZAAcZZEEcZZEcZZO"),
  (0x2DB8, "cCCHAcCCHUcCCHIcCCHAAcCCHEEcCCHEcCCHO"),
  (0x2DC0, "cQYAcQYUcQYIcQYAAcQYEEcQYEcQYO"),
  (0x2DC8, "cKYAcKYUcKYIcKYAAcKYEEcKYEcKYO"),
  (0x2DD0, "cXYAcXYUcXYIcXYAAcXYEEcXYEcXYO"),
  (0x2DD8, "cGYAcGYUcGYIcGYAAcGYEEcGYEcGYO"),
  (0x2DE0, "aCOMBINING CYRILLIC LETTER BEdVEdGHEdDEdZHEdZEdKAdELdEMdENdOdPEdERdESdTEdHAdTSEdCHE"),
  (0x2DF2, "dSHAdSHCHAdFITAdES-TEdAdIEdDJERVdMONOGRAPH UKdYATdYUdIOTIFIED AdLITTLE YUSdBIGn"),
  (0x2DFF, "dIOTIFIEDoaRIGHT ANGLE SUBSTITUTION MARKERcDOTTEDoaLEFT SUBSTITUTION BRACKETaRIGHTo"),
  (0x2E04, "aLEFT DOTTEDoaRIGHTpaRAISED INTERPOLATION MARKERbDOTTEDoaDOTTED TRANSPOSITIONn"),
  (0x2E09, "aLEFT TRANSPOSITION BRACKETaRIGHToaRAISED SQUAREaLEFT RAISED OMISSION BRACKETaRIGHTp"),
  (0x2E0E, "aEDITORIAL CORONISaPARAGRAPHOSaFORKEDnaREVERSEDoaHYPODIASTOLEaDOTTED OBELOS"),
  (0x2E14, "aDOWNWARDS ANCORAaUPWARDSnaDOTTED RIGHT-POINTING ANGLEaDOUBLE OBLIQUE HYPHEN"),
  (0x2E18, "aINVERTED INTERROBANGaPALM BRANCHaHYPHEN WITH DIAERESISaTILDE WITH RING ABOVE"),
  (0x2E1C, "aLEFT LOW PARAPHRASE BRACKETaRIGHTpaTILDE WITH DOT ABOVEdBELOW"),
  (0x2E20, "aLEFT VERTICAL BAR WITH QUILLaRIGHTqaTOP LEFT HALF BRACKETbRIGHToaBOTTOM LEFTobRIGHTo"),
  (0x2E26, "aLEFT SIDEWAYS UnaRIGHTpaLEFT DOUBLE PARENTHESISaRIGHTo"),
  (0x2E2A, "aTWO DOTS OVER ONE DOT PUNCTUATIONaONE DOT OVER TWO DOTSnaSQUARED FOUR DOTn"),
  (0x2E2D, "aFIVE DOT MARKaREVERSED QUESTIONnaVERTICAL TILDEaRING POINTaWORD SEPARATOR MIDDLE DOT"),
  (0x2E32, "aTURNED COMMAaRAISED DOTbCOMMAaTURNED SEMICOLONaDAGGER WITH LEFT GUARDcRIGHTn"),
  (0x2E38, "aTURNED DAGGERaTOP HALF SECTION SIGNaTWO-EM DASHaTHREE-EMnaSTENOGRAPHIC FULL STOP"),
  (0x2E3D, "aVERTICAL SIX DOTSaWIGGLY VERTICAL LINEaCAPITULUMaDOUBLE HYPHENaREVERSED COMMA"),
  (0x2E42, "aDOUBLE LOW-REVERSED-9 QUOTATION MARKaDASH WITH LEFT UPTURNaDOUBLE SUSPENSION MARK"),
  (0x2E45, "aINVERTED LOW KAVYKAdWITH KAVYKA ABOVEaLOW KAVYKAcWITH DOTaDOUBLE STACKED COMMA"),
  (0x2E4A, "aDOTTED SOLIDUSaTRIPLE DAGGERaMEDIEVAL COMMAaPARAGRAPHUS MARKaPUNCTUS ELEVATUSn"),
  (0x2E4F, "aCORNISH VERSE DIVIDERaCROSS PATTY WITH RIGHT CROSSBARdLEFTnaTIRONIAN SIGN CAPITAL ET"),
  (0x2E53, "aMEDIEVAL EXCLAMATION MARKbQUESTIONnaLEFT SQUARE BRACKET WITH STROKEaRIGHTq"),
  (0x2E57, "aLEFT SQUARE BRACKET WITH DOUBLEnaRIGHTraTOP HALF LEFT PARENTHESIScRIGHTn"),
  (0x2E5B, "aBOTTOM HALF LEFTncRIGHTnaOBLIQUE HYPHEN")]

end BooksGateway.Text.CharName
